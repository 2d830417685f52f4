import LadderAtlas.Proofs.Results
import LadderAtlas.Proofs.Stats.Bounds
import LadderAtlas.Proofs.Stats.Collections

/-! # Valid modes

A mode is built of snapshots that the catalog has fitting layouts for, or not at all. The layouts
that are kept while the snapshots are checked are those of the catalog, one for each stat version
that was met, so afterwards every snapshot finds its own among them. What is read from a mode is
what would be read from the bare snapshots, each with its layout. A layout whose length is no word
ends the program where a snapshot asks for it.
-/

namespace LadderAtlas

/-! ## Checking snapshots -/

section Checking

variable [Build] {α : Type} {c : Catalog} {kept kept' : Keyed UInt32 Layout} {s : Snapshot α}
  {e : StatsError} {snapshots : List (Snapshot α)}

/-- The catalog has a layout for a snapshot, and the snapshot holds as many numbers as that asks
    for. -/
def Catalog.Fits (c : Catalog) (s : Snapshot α) : Prop :=
  ∃ l, c.layout? s.statVersion = some l ∧ l.dataLength? = some s.data.size

/-- What is wrong with a snapshot. That there is no layout for it is found before its length is
    asked for. -/
inductive Catalog.Refuses (c : Catalog) (s : Snapshot α) : StatsError → Prop where
  | unknownStatVersion (missing : c.layout? s.statVersion = none) :
      Refuses c s (.unknownStatVersion s.statVersion)
  | dataLength {l : Layout} {length : Nat} (known : c.layout? s.statVersion = some l)
      (had : l.dataLength? = some length) (other : s.data.size ≠ length) :
      Refuses c s (.dataLength s.id length s.data.size)
  | overflow {l : Layout} (known : c.layout? s.statVersion = some l)
      (stops : l.dataLength? = none) :
      Refuses c s .overflow

/-- The layout of a stat is that of the catalog, and its snapshot was checked against it. -/
structure Catalog.Describes (c : Catalog) (stat : Stat α) : Prop where
  layout : c.layout? stat.snapshot.statVersion = some stat.layout
  valid : stat.layout.validate stat.snapshot = .ok ()

theorem Catalog.Describes.stat_eq {stat : Stat α} (h : c.Describes stat) :
    c.stat stat.snapshot = .ok stat := by
  simp only [Catalog.stat, h.layout]
  exact bind_of_eq_ok h.valid _

theorem Catalog.stat_eq_ok {stat : Stat α} (h : c.stat s = .ok stat) :
    stat.snapshot = s ∧ c.Describes stat := by
  unfold Catalog.stat at h
  split at h
  · cases h
  · next l known =>
      obtain ⟨⟨⟩, valid, h⟩ := exists_of_bind_eq_ok h
      cases h
      exact ⟨rfl, known, valid⟩

theorem Catalog.exists_stat_iff : (∃ stat, c.stat s = .ok stat) ↔ c.Fits s := by
  constructor
  · rintro ⟨stat, h⟩
    obtain ⟨rfl, describes⟩ := stat_eq_ok h
    exact ⟨stat.layout, describes.layout, Layout.validate_eq_ok_iff.mp describes.valid⟩
  · rintro ⟨l, known, length⟩
    have describes : c.Describes ⟨l, s⟩ := ⟨known, Layout.validate_eq_ok_iff.mpr length⟩
    exact ⟨⟨l, s⟩, describes.stat_eq⟩

theorem Catalog.stat_eq_error_iff : c.stat s = .error e ↔ c.Refuses s e := by
  constructor
  · intro h
    unfold Catalog.stat at h
    split at h
    · next missing =>
        cases h
        exact .unknownStatVersion missing
    · next l known =>
        unfold Layout.validate at h
        split at h
        · next stops =>
            cases h
            exact .overflow known stops
        · next length had =>
            split at h
            · cases h
            · next other =>
                cases h
                exact .dataLength known had other
  · intro h
    cases h with
    | unknownStatVersion missing => simp only [Catalog.stat, missing]
    | dataLength known had other =>
        simp only [Catalog.stat, known, Layout.validate, had, if_neg other]
        rfl
    | overflow known stops =>
        simp only [Catalog.stat, known, Layout.validate, stops]
        rfl

/-! ## Kept layouts -/

/-- What is kept of some snapshots: layouts of the catalog, among them a fitting one for each of the
    snapshots. -/
structure Catalog.Keeps (c : Catalog) (kept : Keyed UInt32 Layout) (snapshots : List (Snapshot α)) :
    Prop where
  faithful : ∀ version l, kept.get? version = some l → c.layout? version = some l
  fitting : ∀ s ∈ snapshots, ∃ l, kept.get? s.statVersion = some l ∧ l.validate s = .ok ()

/-- One more snapshot is checked: what was kept stays, and there is a layout for the snapshot
    too. -/
theorem Catalog.Keeps.step (h : c.Keeps kept snapshots)
    (checked : c.keepLayout kept s = .ok kept') :
    c.Keeps kept' (s :: snapshots) := by
  obtain ⟨stat, found, result⟩ := exists_of_bind_eq_ok checked
  obtain ⟨rfl, describes⟩ := stat_eq_ok found
  split at result
  · next met =>
      cases result
      obtain ⟨l, there⟩ := Option.isSome_iff_exists.mp met
      obtain rfl : l = stat.layout :=
        Option.some.inj ((h.faithful _ l there).symm.trans describes.layout)
      exact ⟨h.faithful, List.forall_mem_cons.mpr ⟨⟨_, there, describes.valid⟩, h.fitting⟩⟩
  · next unmet =>
      cases result
      refine ⟨fun version l here => ?_,
        List.forall_mem_cons.mpr ⟨⟨stat.layout, ?_, describes.valid⟩, ?_⟩⟩
      · rw [Keyed.get?_insert] at here
        split at here
        · next same =>
            cases here
            exact same ▸ describes.layout
        · exact h.faithful version l here
      · rw [Keyed.get?_insert, if_pos rfl]
      · -- Nothing is kept for the new version yet, so no other snapshot has lost its layout.
        intro t earlier
        obtain ⟨l, there, valid⟩ := h.fitting t earlier
        have other : stat.snapshot.statVersion ≠ t.statVersion := fun same =>
          unmet (same ▸ Option.isSome_of_eq_some there)
        exact ⟨l, by rw [Keyed.get?_insert, if_neg other, there], valid⟩

/-- The layouts kept of snapshots that were all checked, on top of those that were kept before. -/
theorem Catalog.Keeps.run {before : List (Snapshot α)} (h : c.Keeps kept before)
    (checked : snapshots.foldlM c.keepLayout kept = .ok kept') :
    c.Keeps kept' (before ++ snapshots) := by
  induction snapshots generalizing kept before with
  | nil =>
      cases checked
      rwa [List.append_nil]
  | cons s rest ih =>
      rw [List.foldlM_cons] at checked
      obtain ⟨next, first, checked⟩ := exists_of_bind_eq_ok checked
      have later := ih (h.step first) checked
      refine ⟨later.faithful, fun t member => later.fitting t ?_⟩
      rwa [List.cons_append, List.perm_middle.symm.mem_iff]

theorem Catalog.keeps_of_checked (checked : snapshots.foldlM c.keepLayout .empty = .ok kept) :
    c.Keeps kept snapshots := by
  have start : c.Keeps .empty ([] : List (Snapshot α)) := ⟨fun _ _ none => (by cases none), nofun⟩
  exact start.run checked

theorem Catalog.keepLayout_eq_error_iff : c.keepLayout kept s = .error e ↔ c.stat s = .error e := by
  unfold keepLayout
  cases c.stat s <;> simp [bind, Except.bind, pure, Except.pure]

/-- The look-ups in the kept layouts come to what the catalog would have said. -/
theorem Mode.ofSnapshots_eq (c : Catalog) (id : Id) (snapshots : List (Snapshot α)) :
    ofSnapshots c id snapshots = do return ⟨id, ⟨← snapshots.mapM c.stat⟩⟩ := by
  have fails (kept : Keyed UInt32 Layout) (s : Snapshot α) (e : StatsError) :
      c.keepLayout kept s = .error e ↔ c.stat s = .error e := Catalog.keepLayout_eq_error_iff
  cases checked : snapshots.foldlM c.keepLayout .empty with
  | error e =>
      rw [ofSnapshots, checked, (foldlM_eq_error_iff fails).mp checked]
      rfl
  | ok kept =>
      have keeps := Catalog.keeps_of_checked checked
      have alike : ∀ s ∈ snapshots, Stat.ofKept kept s = c.stat s := by
        intro s member
        obtain ⟨l, there, valid⟩ := keeps.fitting s member
        have describes : c.Describes ⟨l, s⟩ := ⟨keeps.faithful _ l there, valid⟩
        rw [Stat.ofKept, there, describes.stat_eq]
      rw [ofSnapshots, bind_of_eq_ok checked, mapM_congr alike]

end Checking

/-! ## Reading records -/

section Records

variable {ρ σ : Type} [Record ρ] [Record σ]

/-- Records that have the ids of others are found as those are. -/
theorem Collection.seek_map {f : ρ → σ} (ids : ∀ r, Record.id (f r) = Record.id r) (id : Int64)
    (met : Option ρ) (rs : List ρ) : seek id (met.map f) (rs.map f) = (seek id met rs).map f := by
  induction rs generalizing met with
  | nil => rfl
  | cons r rs ih =>
      rw [List.map_cons, seek, seek, ids]
      split
      · rfl
      · exact ih (some r)

/-- Records that offer the versions of others are listed as those are. -/
theorem Collection.oldestFirst_map {f : ρ → σ}
    (versions : ∀ r, Record.seasonVersion (f r) = Record.seasonVersion r) (rs : List ρ)
    (least : Option Id) :
    oldestFirst ⟨rs.map f⟩ least = (oldestFirst ⟨rs⟩ least).map f := by
  cases least with
  | none => rfl
  | some version =>
      simp only [oldestFirst, List.filter_map]
      congr 1
      exact List.filter_congr fun r _ => by rw [Function.comp, versions]

end Records

/-! ## Reading modes -/

namespace Mode

variable {α : Type} {m : Mode α} {stat : Stat α}

/-- The ways to a stat of a mode. -/
inductive Gives (m : Mode α) : Stat α → Prop where
  | get {id : Int64} {stat : Stat α} (found : m.get? id = some stat) : Gives m stat
  | getLast {stat : Stat α} (found : m.last? = some stat) : Gives m stat
  | last {stat : Stat α} (found : m.last = .ok stat) : Gives m stat
  | oldestFirst {least : Option Id} {stat : Stat α} (listed : stat ∈ m.oldestFirst least) :
      Gives m stat
  | newestFirst {least : Option Id} {stat : Stat α} (listed : stat ∈ m.newestFirst least) :
      Gives m stat

theorem Gives.mem (h : m.Gives stat) : stat ∈ m.stats.records := by
  cases h with
  | get found => exact Collection.mem_of_get? found
  | getLast found => exact List.mem_of_getLast? found
  | last found =>
      unfold Mode.last at found
      split at found
      · next last =>
          cases found
          exact List.mem_of_getLast? last
      · cases found
  | oldestFirst listed => exact (Collection.oldestFirst_sublist _ _).mem listed
  | newestFirst listed =>
    exact (Collection.oldestFirst_sublist _ _).mem (List.mem_reverse.mp listed)

section Built

variable [Build]

/-- A mode of snapshots: reading it is reading the snapshots, and each comes with the layout that
    the catalog has for it and that it was checked against. -/
structure Holds (m : Mode α) (c : Catalog) (id : Id) (snapshots : List (Snapshot α)) : Prop where
  named : m.id = id
  all : m.snapshots = snapshots
  get? : ∀ key, (m.get? key).map (·.snapshot) = Collection.get? ⟨snapshots⟩ key
  last? : m.last?.map (·.snapshot) = Collection.last? ⟨snapshots⟩
  oldestFirst : ∀ least,
    (m.oldestFirst least).map (·.snapshot) = Collection.oldestFirst ⟨snapshots⟩ least
  newestFirst : ∀ least,
    (m.newestFirst least).map (·.snapshot) = Collection.newestFirst ⟨snapshots⟩ least
  given : ∀ stat, m.Gives stat → stat.snapshot ∈ snapshots ∧ c.Describes stat

theorem ofSnapshots_eq_ok_iff {c : Catalog} {id : Id} {snapshots : List (Snapshot α)} :
    ofSnapshots c id snapshots = .ok m ↔ ∃ stats,
      snapshots.mapM c.stat = .ok stats ∧ m = ⟨id, ⟨stats⟩⟩ := by
  rw [ofSnapshots_eq]
  cases snapshots.mapM c.stat <;> simp [bind, Except.bind, pure, Except.pure, eq_comm]

theorem ofSnapshots_eq_error_iff {c : Catalog} {id : Id} {snapshots : List (Snapshot α)}
    {e : StatsError} :
    ofSnapshots c id snapshots = .error e ↔ snapshots.mapM c.stat = .error e := by
  rw [ofSnapshots_eq]
  cases snapshots.mapM c.stat <;> simp [bind, Except.bind, pure, Except.pure]

theorem holds_of_checked {c : Catalog} {snapshots : List (Snapshot α)} {stats : List (Stat α)}
    (checked : snapshots.mapM c.stat = .ok stats) (id : Id) :
    Holds ⟨id, ⟨stats⟩⟩ c id snapshots := by
  have each := forall₂_of_mapM_eq_ok checked
  have bare : stats.map (·.snapshot) = snapshots := by
    have same := map_eq_of_forall₂ each (fun s => s) (fun stat => stat.snapshot)
      fun s stat found => (Catalog.stat_eq_ok found).1
    rwa [List.map_id'] at same
  have listed (least : Option Id) : (Collection.oldestFirst ⟨stats⟩ least).map (·.snapshot) =
      Collection.oldestFirst ⟨snapshots⟩ least := by
    rw [← bare]
    exact (Collection.oldestFirst_map (f := Stat.snapshot) (fun _ => rfl) stats least).symm
  refine ⟨rfl, bare, fun key => ?_, ?_, listed, fun least => ?_, fun stat given => ?_⟩
  · rw [← bare]
    exact (Collection.seek_map (f := Stat.snapshot) (fun _ => rfl) key none stats).symm
  · rw [← bare]
    exact List.getLast?_map.symm
  · rw [Mode.newestFirst, Collection.newestFirst, List.map_reverse, listed]
    rfl
  · obtain ⟨s, member, found⟩ := exists_mem_of_forall₂ each given.mem
    obtain ⟨rfl, describes⟩ := Catalog.stat_eq_ok found
    exact ⟨member, describes⟩

/-- A mode is built exactly of snapshots that all fit, and then holds them; else it is refused for
    what is wrong with the first that does not, which ends the program where that is a layout
    without a length. -/
theorem valid_or_not_built (c : Catalog) (id : Id) (snapshots : List (Snapshot α)) :
    ((∃ m, ofSnapshots c id snapshots = .ok m) ↔ ∀ s ∈ snapshots, c.Fits s) ∧
    (∀ e, ofSnapshots c id snapshots = .error e ↔ ∃ before s after,
      snapshots = before ++ s :: after ∧
      (∀ t ∈ before, c.Fits t) ∧ c.Refuses s e) ∧
    ∀ m, ofSnapshots c id snapshots = .ok m → m.Holds c id snapshots := by
  refine ⟨⟨?_, fun fits => ?_⟩, fun e => ?_, fun m built => ?_⟩
  · rintro ⟨m, built⟩ s member
    obtain ⟨stats, checked, -⟩ := ofSnapshots_eq_ok_iff.mp built
    obtain ⟨stat, -, found⟩ := exists_mem_of_forall₂ (forall₂_of_mapM_eq_ok checked).flip member
    exact Catalog.exists_stat_iff.mp ⟨stat, found⟩
  · obtain ⟨stats, checked⟩ :=
      exists_mapM_eq_ok fun s member => Catalog.exists_stat_iff.mpr (fits s member)
    exact ⟨_, ofSnapshots_eq_ok_iff.mpr ⟨stats, checked, rfl⟩⟩
  · rw [ofSnapshots_eq_error_iff, mapM_eq_error_iff]
    simp only [Catalog.exists_stat_iff, Catalog.stat_eq_error_iff]
  · obtain ⟨stats, checked, rfl⟩ := ofSnapshots_eq_ok_iff.mp built
    exact holds_of_checked checked id

end Built

/-- Snapshots of two stat versions in turn are held; a third version among them is refused, though a
    snapshot after it is too short as well. -/
theorem valid_or_not_built_two_versions :
    let small := Layout.ofIds 1 ⟨[0], [0], [0], [0]⟩
    let large := Layout.ofIds 1 ⟨[0], [0, 1], [0], [0]⟩
    let c := { Catalog.empty with layouts := .ofList [(1, small), (2, large)] }
    let snapshot (id : Int64) (version : UInt32) (data : Array Rat) : Snapshot Rat :=
      ⟨id, 201, 28, 0, version, id, data⟩
    let sound := [snapshot 1 1 #[5], snapshot 2 2 #[5, 6], snapshot 3 1 #[7]]
    (∀ s ∈ sound, c.Fits s) ∧ (∃ m, ofSnapshots c 201 sound = .ok m ∧ m.Holds c 201 sound) ∧
      ofSnapshots c 201 (sound ++ [snapshot 4 3 #[], snapshot 5 2 #[]]) =
        .error (.unknownStatVersion 3) := by
  intro small large c snapshot sound
  have fits : ∀ s ∈ sound, c.Fits s := by
    intro s member
    simp only [sound, List.mem_cons, List.not_mem_nil, or_false] at member
    rcases member with rfl | rfl | rfl
    · exact ⟨small, rfl, rfl⟩
    · exact ⟨large, rfl, rfl⟩
    · exact ⟨small, rfl, rfl⟩
  obtain ⟨builds, -, holds⟩ := valid_or_not_built c 201 sound
  obtain ⟨m, built⟩ := builds.mpr fits
  obtain ⟨-, refused, -⟩ := valid_or_not_built c 201 (sound ++ [snapshot 4 3 #[], snapshot 5 2 #[]])
  refine ⟨fits, ⟨m, built, holds m built⟩,
    (refused _).mpr ⟨sound, snapshot 4 3 #[], _, rfl, fits, ?_⟩⟩
  exact .unknownStatVersion rfl

/-- Four cells of `2 ^ 62` numbers are too many for a word. A snapshot over them is no part of a
    mode, and it is not refused either: the program ends. -/
theorem neither_built_nor_refused :
    let l := Layout.ofIds 0x4000000000000000 ⟨[0, 1, 2, 3], [0], [0], [0]⟩
    let c := { Catalog.empty with layouts := .ofList [(1, l)] }
    let s : Snapshot Float := ⟨1, 201, 28, 2, 1, 0, #[]⟩
    c.layout? s.statVersion = some l ∧ l.dataLength? = none ∧ s.data.size ≠ l.extent ∧
      (¬ ∃ m, ofSnapshots c 201 [s] = .ok m) ∧
      ∀ e, ofSnapshots c 201 [s] = .error e → e.isPanic := by
  intro l c s
  have stops : l.dataLength? = none := by decide
  have refused : ofSnapshots c 201 [s] = .error .overflow := by
    have stat : c.stat s = .error .overflow := Catalog.stat_eq_error_iff.mpr (.overflow rfl stops)
    rw [ofSnapshots_eq_error_iff, List.mapM_cons, stat]
    rfl
  rw [refused]
  refine ⟨rfl, stops, by decide, nofun, fun e same => ?_⟩
  cases same
  rfl

end Mode

end LadderAtlas
