import LadderAtlas.Season
import Mathlib.Data.List.Nodup

/-! # Seasons in order

Putting seasons in order moves seasons of different ids only, so those of one id keep the order they
were given in, and the place that is kept of an id is that of the season given last. Where every id
is given once, the order given does not matter at all.
-/

namespace LadderAtlas.Seasons

variable {seasons : List Season} {id : Int32}

/-! ## The order -/

theorem ordered_iff {a b : Season} : ordered a b = true ↔ a.id ≤ b.id := decide_eq_true_iff

theorem ordered_trans (a b c : Season) (first : ordered a b = true) (second : ordered b c = true) :
    ordered a c = true :=
  ordered_iff.mpr (Int32.le_trans (ordered_iff.mp first) (ordered_iff.mp second))

theorem ordered_total (a b : Season) : (ordered a b || ordered b a) = true := by
  rw [Bool.or_eq_true, ordered_iff, ordered_iff]
  exact Int32.le_total a.id b.id

theorem sorted_perm (seasons : List Season) : (ofList seasons).sorted.Perm seasons :=
  List.mergeSort_perm seasons ordered

theorem pairwise_sorted (seasons : List Season) :
    (ofList seasons).sorted.Pairwise fun a b => a.id ≤ b.id :=
  (List.pairwise_mergeSort ordered_trans ordered_total seasons).imp ordered_iff.mp

/-- The seasons of one id are in order already, so they all are found among the sorted ones as they
    were given; and there are no more of them. -/
theorem filter_sorted (seasons : List Season) (id : Int32) :
    (ofList seasons).sorted.filter (fun s => s.id = id) = seasons.filter fun s => s.id = id := by
  have alike : (seasons.filter fun s => s.id = id).Pairwise fun a b => ordered a b = true := by
    refine List.pairwise_filter.mpr (List.pairwise_of_forall fun a b ofA ofB => ordered_iff.mpr ?_)
    rw [of_decide_eq_true ofA, of_decide_eq_true ofB]
    exact Int32.le_refl id
  have kept : (seasons.filter fun s => s.id = id).Sublist (ofList seasons).sorted :=
    List.sublist_mergeSort ordered_trans ordered_total alike List.filter_sublist
  have among := kept.filter fun s => decide (s.id = id)
  rw [List.filter_filter] at among
  simp only [Bool.and_self] at among
  exact (among.eq_of_length ((sorted_perm seasons).filter _).length_eq.symm).symm

/-- The places are made from the sorted seasons alone. -/
theorem places_ofList (seasons : List Season) : (ofList seasons).places =
    Keyed.ofList ((ofList seasons).sorted.zipIdx.map fun (season, place) => (season.id, place)) :=
  rfl

/-- In any order, seasons of different ids are sorted into the same list. -/
theorem ofList_eq_of_perm {others : List Season} (distinct : (seasons.map Season.id).Nodup)
    (perm : others.Perm seasons) : ofList others = ofList seasons := by
  have same : (ofList others).sorted = (ofList seasons).sorted := by
    refine List.Perm.eq_of_pairwise ?_ (pairwise_sorted others) (pairwise_sorted seasons)
      ((sorted_perm others).trans (perm.trans (sorted_perm seasons).symm))
    intro a b memberA memberB le ge
    have givenA : a ∈ seasons := perm.mem_iff.mp ((sorted_perm others).mem_iff.mp memberA)
    have givenB : b ∈ seasons := (sorted_perm seasons).mem_iff.mp memberB
    exact List.inj_on_of_nodup_map distinct givenA givenB (Int32.le_antisymm le ge)
  have places : (ofList others).places = (ofList seasons).places := by
    rw [places_ofList, places_ofList, same]
  calc
    ofList others = ⟨(ofList others).sorted, (ofList others).places⟩ := rfl
    _ = ofList seasons := by rw [same, places]

/-! ## Looking up -/

/-- The place kept of an id is that of the last of the sorted seasons that have it. -/
theorem get?_places (seasons : List Season) (id : Int32) :
    (ofList seasons).places.get? id =
      ((ofList seasons).sorted.zipIdx.reverse.find? fun e => e.1.id = id).map (·.2) := by
  rw [places_ofList, Keyed.get?_ofList, ← List.map_reverse, List.find?_map, Option.map_map]
  rfl

theorem find?_sorted (seasons : List Season) (id : Int32) :
    (ofList seasons).sorted.reverse.find? (fun s => s.id = id) =
      ((ofList seasons).sorted.zipIdx.reverse.find? fun e => e.1.id = id).map (·.1) := by
  conv_lhs => rw [← List.zipIdx_map_fst 0 (ofList seasons).sorted, ← List.map_reverse,
    List.find?_map]
  rfl

/-- What is kept of an id is a place where a season of that id is, the last one given; or no season
    has the id. -/
theorem exists_place_or_none (seasons : List Season) (id : Int32) :
    (∃ place season, (ofList seasons).places.get? id = some place ∧
      (ofList seasons).sorted[place]? = some season ∧
      seasons.reverse.find? (fun s => s.id = id) = some season) ∨
    (ofList seasons).places.get? id = none ∧ seasons.reverse.find? (fun s => s.id = id) = none := by
  have given : (ofList seasons).sorted.reverse.find? (fun s => s.id = id) =
      seasons.reverse.find? fun s => s.id = id := by
    rw [← List.getLast?_filter, filter_sorted, List.getLast?_filter]
  rw [← given, find?_sorted, get?_places]
  cases found : (ofList seasons).sorted.zipIdx.reverse.find? fun e => e.1.id = id with
  | none => exact .inr ⟨rfl, rfl⟩
  | some e =>
      have there := List.mem_reverse.mp (List.mem_of_find?_eq_some found)
      exact .inl ⟨e.2, e.1, rfl, List.mem_zipIdx_iff_getElem?.mp there, rfl⟩

theorem get?_ofList (seasons : List Season) (id : Int32) :
    (ofList seasons).get? id = seasons.reverse.find? fun s => s.id = id := by
  unfold get?
  obtain ⟨place, season, kept, there, last⟩ | ⟨kept, none⟩ := exists_place_or_none seasons id
  · rw [kept, last]
    exact there
  · rw [kept, none]

/-- Seasons are kept once each, in order of their ids and those of one id in the order given. A
    season is found of exactly the ids that are given, and it is the last one given, at the place
    that is kept of the id. If no id is given twice, the order in which the seasons are given makes
    no difference. -/
theorem kept_in_order_and_found (seasons : List Season) :
    let s := ofList seasons
    s.sorted.Perm seasons ∧ s.sorted.Pairwise (fun a b => a.id ≤ b.id) ∧
    (∀ id, s.sorted.filter (fun season => season.id = id) = seasons.filter fun season =>
      season.id = id) ∧
    (∀ id, (s.get? id).isSome ↔ ∃ season ∈ seasons, season.id = id) ∧
    (∀ id season, s.get? id = some season →
      (seasons.filter fun season => season.id = id).getLast? = some season ∧
        ∃ place, s.places.get? id = some place ∧ s.sorted[place]? = some season) ∧
    ((seasons.map Season.id).Nodup → ∀ others : List Season, others.Perm seasons →
      (ofList others).sorted = s.sorted ∧ ∀ id, (ofList others).get? id = s.get? id) := by
  refine ⟨sorted_perm seasons, pairwise_sorted seasons, filter_sorted seasons, fun id => ?_,
    fun id season found => ?_, fun distinct others perm => ?_⟩
  · simp [get?_ofList]
  · rw [get?_ofList] at found
    refine ⟨List.getLast?_filter.trans found, ?_⟩
    obtain ⟨place, other, kept, there, last⟩ | ⟨-, none⟩ := exists_place_or_none seasons id
    · rw [last] at found
      cases found
      exact ⟨place, kept, there⟩
    · rw [none] at found
      cases found
  · rw [ofList_eq_of_perm distinct perm]
    exact ⟨rfl, fun _ => rfl⟩

/-- Of two seasons of one id, given around one of a lower id, the second is found, after the first.
    Without the second the two others may be given in either order. -/
theorem kept_in_order_and_found_repeated :
    let first : Season := ⟨29, 1, 2016, 0, 10, "#ff6666"⟩
    let lower : Season := ⟨28, 2, 2016, 10, 20, "#6666ff"⟩
    let second : Season := ⟨29, 3, 2016, 20, 30, "#66ff66"⟩
    (ofList [first, lower, second]).get? 29 = some second ∧
      (ofList [first, lower, second]).sorted.filter (fun season => season.id = 29) =
        [first, second] ∧
      [first, lower].Perm [lower, first] ∧ ([lower, first].map Season.id).Nodup ∧
      (ofList [first, lower]).sorted = (ofList [lower, first]).sorted := by
  intro first lower second
  obtain ⟨-, -, kept, given, last, -⟩ := kept_in_order_and_found [first, lower, second]
  obtain ⟨-, -, -, -, -, alike⟩ := kept_in_order_and_found [lower, first]
  have perm : [first, lower].Perm [lower, first] := .swap lower first []
  have distinct : ([lower, first].map Season.id).Nodup := by decide
  obtain ⟨found, there⟩ := Option.isSome_iff_exists.mp ((given 29).mpr ⟨second, by simp, rfl⟩)
  have isLast : some second = some found := (last 29 found there).1
  exact ⟨there.trans isLast.symm, kept 29, perm, distinct, (alike distinct _ perm).1⟩

end LadderAtlas.Seasons
