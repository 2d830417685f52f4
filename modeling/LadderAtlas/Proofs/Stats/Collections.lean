import LadderAtlas.Stats.Collection

/-! # Finding and walking through records

A look-up walks to the first record of an id and keeps the record it met last, so an id that no
record has leads to the last record of all. The two walks skip the records of seasons that do not
offer a version, keep the others as they come, and are each other's reverse.
-/

namespace LadderAtlas.Collection

variable {ρ : Type} [Record ρ] {c : Collection ρ} {id : Int64} {least : Option Id}

/-- Whether a record's season offers at least the given version, if one is given. -/
def Offers (least : Option Id) (r : ρ) : Prop := ∀ version ∈ least, version ≤ Record.seasonVersion r

@[simp] theorem offers_none {r : ρ} : Offers none r := nofun

@[simp]
theorem offers_some {version : Id} {r : ρ} :
    Offers (some version) r ↔ version ≤ Record.seasonVersion r := by
  simp [Offers]

/-! ## Finding -/

/-- What the walk has met so far counts only where no record is left to be met. -/
theorem seek_eq_or (id : Int64) (met : Option ρ) (records : List ρ) :
    seek id met records =
      ((records.find? fun r => Record.id r = id).or records.getLast?).or met := by
  induction records generalizing met with
  | nil => rfl
  | cons r rest ih =>
      rw [seek, List.find?_cons]
      by_cases here : Record.id r = id
      · simp [here]
      · have last : (r :: rest).getLast? = rest.getLast?.or (some r) := by
          rw [List.getLast?_cons]
          cases rest.getLast? <;> rfl
        simp only [here, if_false, decide_false]
        rw [ih, last, Option.or_assoc, Option.or_assoc, Option.or_assoc]
        rfl

theorem get?_eq_or (c : Collection ρ) (id : Int64) :
    c.get? id = (c.records.find? fun r => Record.id r = id).or c.records.getLast? := by
  rw [get?, seek_eq_or, Option.or_none]

theorem mem_of_get? {r : ρ} (found : c.get? id = some r) : r ∈ c.records := by
  rw [get?_eq_or, Option.or_eq_some_iff] at found
  rcases found with first | ⟨-, last⟩
  · exact List.mem_of_find?_eq_some first
  · exact List.mem_of_getLast? last

theorem get?_eq_none_iff : c.get? id = none ↔ c.records = [] := by
  rw [get?_eq_or, Option.or_eq_none_iff, List.getLast?_eq_none_iff]
  constructor
  · rintro ⟨-, empty⟩
    exact empty
  · intro empty
    rw [empty]
    exact ⟨rfl, rfl⟩

/-- The record that is found under the id of a record has that id. -/
theorem exists_get?_id {r : ρ} (member : r ∈ c.records) :
    ∃ found, c.get? (Record.id r) = some found ∧ Record.id found = Record.id r := by
  have some : (c.records.find? fun q => Record.id q = Record.id r).isSome :=
    List.find?_isSome.mpr ⟨r, member, decide_eq_true rfl⟩
  obtain ⟨found, first⟩ := Option.isSome_iff_exists.mp some
  have same : decide (Record.id found = Record.id r) = true := by simpa using List.find?_some first
  refine ⟨found, ?_, of_decide_eq_true same⟩
  rw [get?_eq_or, first]
  rfl

/-! ## Walking -/

theorem oldestFirst_sublist (c : Collection ρ) (least : Option Id) :
    (c.oldestFirst least).Sublist c.records := by
  cases least with
  | none => exact .refl _
  | some version => exact List.filter_sublist

theorem mem_oldestFirst_iff {r : ρ} : r ∈ c.oldestFirst least ↔ r ∈ c.records ∧ Offers least r := by
  cases least <;> simp [oldestFirst]

/-- The records of the walk are all those that are offered, each as often and in the order it was
    given: any records that are offered, in that order, are among them. -/
theorem sublist_oldestFirst_iff {picked : List ρ} :
    picked.Sublist (c.oldestFirst least) ↔ picked.Sublist c.records ∧ ∀ r ∈ picked,
      Offers least r := by
  constructor
  · intro walked
    exact ⟨walked.trans (c.oldestFirst_sublist least), fun r member =>
      (mem_oldestFirst_iff.mp (walked.mem member)).2⟩
  · rintro ⟨given, offered⟩
    cases least with
    | none => exact given
    | some version =>
        have kept : picked.filter (fun r => decide (version ≤ Record.seasonVersion r)) = picked :=
          List.filter_eq_self.mpr fun r member => decide_eq_true (offers_some.mp (offered r member))
        rw [← kept]
        exact given.filter _

/-- Walking backwards is walking through the records in reverse. -/
theorem newestFirst_eq (c : Collection ρ) (least : Option Id) :
    c.newestFirst least = oldestFirst ⟨c.records.reverse⟩ least := by
  cases least with
  | none => rfl
  | some version => exact List.filter_reverse.symm

theorem max_le_iff {a b version : Id} : max a b ≤ version ↔ a ≤ version ∧ b ≤ version := by
  have larger : max a b = if a ≤ b then b else a := rfl
  rw [larger]
  split
  · next le => exact ⟨fun h => ⟨Int32.le_trans le h, h⟩, And.right⟩
  · next more =>
      have less : b ≤ a := (Int32.le_total a b).resolve_left more
      exact ⟨fun h => ⟨h, Int32.le_trans less h⟩, And.left⟩

/-- Asking for more leaves out what offers less. -/
theorem oldestFirst_max (c : Collection ρ) (a b : Id) :
    c.oldestFirst (some (max a b)) =
      (c.oldestFirst (some a)).filter fun r => decide (b ≤ Record.seasonVersion r) := by
  simp only [oldestFirst, List.filter_filter]
  refine List.filter_congr fun r _ => ?_
  rw [← Bool.decide_and, decide_eq_decide, max_le_iff, and_comm]

/-- A look-up gives the first record of the id, or the last record where none has the id, and
    nothing only of an empty collection; so it gives a record of the id whenever there is one. A
    walk lists the records that offer the version and no others, as often and in the order they were
    given; walked backwards they come in reverse; and what a higher version leaves of a walk is what
    offers that too. -/
theorem found_and_listed (c : Collection ρ) :
    (∀ id, c.get? id = (c.records.find? fun r => Record.id r = id).or c.records.getLast?) ∧
    (∀ id, c.get? id = none ↔ c.records = []) ∧
    (∀ r ∈ c.records, ∃ found, c.get? (Record.id r) = some found ∧ Record.id found = Record.id r) ∧
    c.oldestFirst none = c.records ∧
    (∀ least (picked : List ρ), picked.Sublist (c.oldestFirst least) ↔
      picked.Sublist c.records ∧ ∀ r ∈ picked, Offers least r) ∧
    (∀ least, c.newestFirst least = (c.oldestFirst least).reverse ∧
      c.newestFirst least = oldestFirst ⟨c.records.reverse⟩ least) ∧
    ∀ a b, c.oldestFirst (some (max a b)) =
      (c.oldestFirst (some a)).filter fun r => decide (b ≤ Record.seasonVersion r) :=
  ⟨c.get?_eq_or, fun _ => get?_eq_none_iff, fun _ member => exists_get?_id member, rfl,
    fun _ _ => sublist_oldestFirst_iff, fun least => ⟨rfl, c.newestFirst_eq least⟩,
    c.oldestFirst_max⟩

/-- Of two snapshots of one id the first is found, also under the id of the second; an id that no
    snapshot has leads to the last one. Versions need not rise. -/
theorem found_and_listed_repeated :
    let snapshot (id : Int64) (version : Id) (time : Int64) : Snapshot Rat :=
      ⟨id, 201, 28, version, 1, time, #[]⟩
    let c : Collection (Snapshot Rat) :=
      ⟨[snapshot 5 2 100, snapshot 7 0 200, snapshot 5 1 300, snapshot 9 0 400]⟩
    snapshot 5 1 300 ∈ c.records ∧
      (∃ found, c.get? 5 = some found ∧ Record.id found = 5 ∧ Record.time found = 100) ∧
      (c.get? 8).map Record.time = some 400 ∧
      [snapshot 5 2 100, snapshot 5 1 300].Sublist (c.oldestFirst (some 1)) ∧
      (c.newestFirst (some 1)).map Record.time = [300, 100] := by
  intro snapshot c
  obtain ⟨get, -, own, -, walk, -⟩ := c.found_and_listed
  have member : snapshot 5 1 300 ∈ c.records := by simp [c]
  obtain ⟨found, atFive, isFive⟩ := own _ member
  have first : (c.get? 5).map Record.time = some 100 := by
    rw [get]
    rfl
  have time : Record.time found = 100 := by
    rw [show c.get? 5 = some found from atFive] at first
    exact Option.some.inj first
  refine ⟨member, ⟨found, atFive, isFive, time⟩, ?_, (walk _ _).mpr ⟨?_, ?_⟩, rfl⟩
  · rw [get]
    rfl
  · exact .cons_cons _ (.cons _ (.cons_cons _ (List.nil_sublist _)))
  · intro r picked
    simp only [List.mem_cons, List.not_mem_nil, or_false] at picked
    rcases picked with rfl | rfl <;> exact offers_some.mpr (by decide)

end LadderAtlas.Collection
