import LadderAtlas.Proofs.Stats.Rearranging

/-! # Reading along paths

An aggregate is read at every path or says why not, and which of the two can be told from the lists
of the selection alone, without the tree. A path that is longer than the grouping is refused as a
whole. Any other path is followed up to the first id that is not listed for its dimension, and this
id is the one complained about. Where all are listed, the sum of the cells that are left is read.
-/

namespace LadderAtlas

namespace Selection

/-- At position `k` a path names an id that is not listed for the dimension grouped by there, and
    before that listed ids only. -/
structure LeftAt (s : Selection) (groupBy : List Dimension) (path : List Id) (k : Nat)
    (d : Dimension) (id : Id) : Prop where
  grouped : groupBy[k]? = some d
  named : path[k]? = some id
  unlisted : id ∉ s.ids d
  before : ∀ j < k, ∀ e other, groupBy[j]? = some e → path[j]? = some other → other ∈ s.ids e

variable {s : Selection} {groupBy rest : List Dimension} {path : List Id} {d e : Dimension}
  {id other : Id} {k : Nat}

theorem leftAt_zero_iff : s.LeftAt (d :: rest) (id :: path) 0 e other ↔
    e = d ∧ other = id ∧ id ∉ s.ids d := by
  constructor
  · rintro ⟨grouped, named, unlisted, -⟩
    cases grouped
    cases named
    exact ⟨rfl, rfl, unlisted⟩
  · rintro ⟨rfl, rfl, unlisted⟩
    exact ⟨rfl, rfl, unlisted, fun j early => absurd early (Nat.not_lt_zero j)⟩

theorem leftAt_succ_iff : s.LeftAt (d :: rest) (id :: path) (k + 1) e other ↔
    id ∈ s.ids d ∧ s.LeftAt rest path k e other := by
  constructor
  · rintro ⟨grouped, named, unlisted, before⟩
    refine ⟨before 0 (Nat.succ_pos k) d id rfl rfl, grouped, named, unlisted, fun j early => ?_⟩
    exact before (j + 1) (Nat.succ_lt_succ early)
  · rintro ⟨listed, grouped, named, unlisted, before⟩
    refine ⟨grouped, named, unlisted, fun j early => ?_⟩
    cases j with
    | zero =>
        intro e other grouped named
        cases grouped
        cases named
        exact listed
    | succ j => exact before j (Nat.lt_of_succ_lt_succ early)

theorem LeftAt.congr {t : Selection} (h : s.LeftAt groupBy path k d id)
    (same : ∀ e ∈ groupBy, t.ids e = s.ids e) : t.LeftAt groupBy path k d id := by
  refine ⟨h.grouped, h.named, ?_, fun j early e other grouped named => ?_⟩
  · rw [same d (List.mem_of_getElem? h.grouped)]
    exact h.unlisted
  · rw [same e (List.mem_of_getElem? grouped)]
    exact h.before j early e other grouped named

theorem not_leftAt_of_listed (listed : ∀ x ∈ path.zip groupBy, x.1 ∈ s.ids x.2) :
    ¬ ∃ k d id, s.LeftAt groupBy path k d id := by
  rintro ⟨k, d, id, left⟩
  have member : (id, d) ∈ path.zip groupBy :=
    List.mem_of_getElem? (List.getElem?_zip_eq_some.mpr ⟨left.named, left.grouped⟩)
  exact left.unlisted (listed (id, d) member)

/-- Where no dimension is grouped by twice, narrowing in the first one leaves open what is listed
    further on. -/
theorem leftAt_narrowed_iff (once : d ∉ rest) :
    (s.narrowed d id).LeftAt rest path k e other ↔ s.LeftAt rest path k e other := by
  have same : ∀ e ∈ rest, (s.narrowed d id).ids e = s.ids e := by
    intro e later
    have further : d ≠ e := fun here => once (here ▸ later)
    rw [ids_narrowed, if_neg further]
  exact ⟨fun h => h.congr fun e later => (same e later).symm, fun h => h.congr same⟩

end Selection

section Walking

variable [Build] {α : Type} [Scalar α] {l : Layout} {data : Array α} {s : Selection}
  {groupBy : List Dimension} {tree : AggregateTree α}

open AggregateTree

/-- A walk down a tree fails where the path leaves the selection, and says so. -/
theorem AggregateTree.BreaksOut.walk_eq_error_iff (h : BreaksOut l data s groupBy tree)
    (distinct : groupBy.Nodup) {path : List Id} {e : StatsError} :
    Aggregate.walk tree (path.zip groupBy) = .error e ↔
      ∃ k d id, s.LeftAt groupBy path k d id ∧ e = .unknownId d id := by
  induction path generalizing s groupBy tree with
  | nil =>
      refine iff_of_false (by simp [Aggregate.walk]) ?_
      rintro ⟨k, d, id, left, -⟩
      cases left.named
  | cons first path ih =>
      cases groupBy with
      | nil =>
          refine iff_of_false (by simp [Aggregate.walk]) ?_
          rintro ⟨k, d, id, left, -⟩
          cases left.grouped
      | cons d rest =>
          obtain ⟨child, below, rfl⟩ := h
          obtain ⟨once, distinct⟩ := List.nodup_cons.mp distinct
          simp only [List.zip_cons_cons, Aggregate.walk, child?_branch]
          by_cases listed : first ∈ s.ids d
          · simp only [listed, if_true]
            rw [ih (below first listed) distinct]
            simp only [Selection.leftAt_narrowed_iff once]
            constructor
            · rintro ⟨k, e', id, left, rfl⟩
              exact ⟨k + 1, e', id, Selection.leftAt_succ_iff.mpr ⟨listed, left⟩, rfl⟩
            · rintro ⟨k, e', id, left, rfl⟩
              cases k with
              | zero => exact absurd listed (Selection.leftAt_zero_iff.mp left).2.2
              | succ k => exact ⟨k, e', id, (Selection.leftAt_succ_iff.mp left).2, rfl⟩
          · simp only [listed, if_false, Except.error.injEq]
            constructor
            · rintro rfl
              exact ⟨0, d, first, Selection.leftAt_zero_iff.mpr ⟨rfl, rfl, listed⟩, rfl⟩
            · rintro ⟨k, e', id, left, rfl⟩
              cases k with
              | zero =>
                  obtain ⟨rfl, rfl, -⟩ := Selection.leftAt_zero_iff.mp left
                  rfl
              | succ k => exact absurd (Selection.leftAt_succ_iff.mp left).1 listed

end Walking

namespace Stat

section Reading

variable [Build] {α : Type} [Scalar α] {s : Stat α} {f : Filter} {groupBy : List Dimension}
  {a : Aggregate α} {path : List Id} {field : Field} {e : StatsError}

/-- A path that is not too long is refused only for leaving the selection. -/
theorem get_eq_error_iff (h : s.aggregate f groupBy = .ok a) (distinct : groupBy.Nodup)
    (short : path.length ≤ groupBy.length) : a.get field path = .error e ↔
      ∃ k d id, (f.resolve s.layout).LeftAt groupBy path k d id ∧ e = .unknownId d id := by
  obtain ⟨tree, broken, rfl⟩ := aggregate_eq_ok h
  rw [← broken.walk_eq_error_iff distinct, Aggregate.get, if_neg (Nat.not_lt.mpr short)]
  cases Aggregate.walk tree (path.zip groupBy) with
  | error e' =>
      constructor
      · rintro ⟨⟩
        rfl
      · rintro ⟨⟩
        rfl
  | ok node => exact iff_of_false (by rintro ⟨⟩) (by rintro ⟨⟩)

/-- Right below the root there is a number for each listed id, and for no other. -/
theorem get_below_eq_error_iff {d : Dimension} {id : Id} (h : s.aggregate f [d] = .ok a)
    (free : f.get? d = none) :
    a.get field [id] = .error e ↔ id ∉ s.layout.ids d ∧ e = .unknownId d id := by
  have short : [id].length ≤ [d].length := Nat.le_refl 1
  rw [get_eq_error_iff h (List.nodup_singleton d) short, ← Filter.ids_resolve_of_free free s.layout]
  constructor
  · rintro ⟨k, e, other, left, rfl⟩
    cases k with
    | zero =>
        obtain ⟨rfl, rfl, unlisted⟩ := Selection.leftAt_zero_iff.mp left
        exact ⟨unlisted, rfl⟩
    | succ k => cases (Selection.leftAt_succ_iff.mp left).2.named
  · rintro ⟨unlisted, rfl⟩
    exact ⟨0, d, id, Selection.leftAt_zero_iff.mpr ⟨rfl, rfl, unlisted⟩, rfl⟩

theorem listed_of_get_below {d : Dimension} {id : Id} {value : α} (h : s.aggregate f [d] = .ok a)
    (free : f.get? d = none) (read : a.get field [id] = .ok value) : id ∈ s.layout.ids d := by
  by_contra unlisted
  have refused : a.get field [id] = .error (.unknownId d id) :=
    (get_below_eq_error_iff h free).mpr ⟨unlisted, rfl⟩
  rw [read] at refused
  cases refused

theorem get_eq_pathTooLong_iff (h : s.aggregate f groupBy = .ok a) (distinct : groupBy.Nodup) :
    a.get field path = .error (.pathTooLong path.length groupBy.length) ↔
      groupBy.length < path.length := by
  constructor
  · intro refused
    by_contra short
    obtain ⟨k, d, id, -, other⟩ := (get_eq_error_iff h distinct (Nat.not_lt.mp short)).mp refused
    cases other
  · intro long
    obtain ⟨tree, -, rfl⟩ := aggregate_eq_ok h
    rw [Aggregate.get, if_pos long]

/-- How an aggregate answers to paths, told from what the filter lists. -/
structure AnswersPaths (s : Stat α) (f : Filter) (groupBy : List Dimension)
    (a : Aggregate α) : Prop where
  ids : ∀ d, a.ids d = (f.resolve s.layout).ids d
  tooLong : ∀ (field : Field) (path : List Id),
    a.get field path = .error (.pathTooLong path.length groupBy.length) ↔
      groupBy.length < path.length
  unknown : ∀ (field : Field) (path : List Id), path.length ≤ groupBy.length → ∀ d id,
    a.get field path = .error (.unknownId d id) ↔ ∃ k,
      (f.resolve s.layout).LeftAt groupBy path k d id
  value : ∀ (field : Field) (path : List Id), path.length ≤ groupBy.length →
    (¬ ∃ k d id, (f.resolve s.layout).LeftAt groupBy path k d id) → ∃ value,
      a.get field path = .ok value
  drawn : ∀ (field : Field) (path : List Id), path.length ≤ groupBy.length →
    (∀ x ∈ path.zip groupBy, x.1 ∈ a.ids x.2) → ∃ value, a.get field path = .ok value

/-- At a path that does not leave the selection, the sum of the cells that are left is read. -/
def ReadsSumAt (s : Stat α) (f : Filter) (groupBy : List Dimension) (a : Aggregate α)
    (field : Field) (path : List Id) : Prop :=
  (¬ ∃ k d id, (f.resolve s.layout).LeftAt groupBy path k d id) →
    ∃ total, sumCells s.layout s.snapshot.data ((f.resolve s.layout).narrowedAlong groupBy path) =
      some total ∧ a.get field path = .ok (total.get field)

theorem exists_get_eq_ok (h : s.aggregate f groupBy = .ok a) (distinct : groupBy.Nodup)
    (short : path.length ≤ groupBy.length)
    (inside : ¬ ∃ k d id, (f.resolve s.layout).LeftAt groupBy path k d id) :
    ∃ value, a.get field path = .ok value := by
  cases read : a.get field path with
  | ok value => exact ⟨value, rfl⟩
  | error e =>
      obtain ⟨k, d, id, left, -⟩ := (get_eq_error_iff h distinct short).mp read
      exact absurd ⟨k, d, id, left⟩ inside

theorem answersPaths (h : s.aggregate f groupBy = .ok a) (distinct : groupBy.Nodup) :
    s.AnswersPaths f groupBy a := by
  have ids : ∀ d, a.ids d = (f.resolve s.layout).ids d := by
    obtain ⟨tree, -, rfl⟩ := aggregate_eq_ok h
    exact fun d => rfl
  refine ⟨ids, fun field path => get_eq_pathTooLong_iff h distinct, ?_, ?_, ?_⟩
  · intro field path short d id
    rw [get_eq_error_iff h distinct short]
    constructor
    · rintro ⟨k, e, other, left, same⟩
      cases same
      exact ⟨k, left⟩
    · rintro ⟨k, left⟩
      exact ⟨k, d, id, left, rfl⟩
  · exact fun field path short inside => exists_get_eq_ok h distinct short inside
  · intro field path short drawn
    simp only [ids] at drawn
    exact exists_get_eq_ok h distinct short (Selection.not_leftAt_of_listed drawn)

theorem readsSumAt (h : s.aggregate f groupBy = .ok a) (distinct : groupBy.Nodup)
    (short : path.length ≤ groupBy.length) (sums : s.SumsAt f groupBy path) :
    s.ReadsSumAt f groupBy a field path := by
  intro inside
  obtain ⟨value, read⟩ := exists_get_eq_ok h distinct short inside
  obtain ⟨-, summed⟩ := (get_eq_ok_iff h distinct short sums).mp read
  obtain ⟨total, direct, rfl⟩ := Option.map_eq_some_iff.mp summed
  exact ⟨total, direct, read⟩

end Reading

/-- What an aggregate answers to a path can be told from the lists of its filter: the path is too
    long, or it leaves the lists and the first id that is not listed is named, or there is a value.
    A path as long as the grouping reads the sum of the cells that are left, to the last bit, and
    over exact numbers a shorter path does so too. -/
theorem path_answers_by_lists [Build] :
    (∀ {α : Type} [Scalar α] (s : Stat α) (f : Filter) (groupBy : List Dimension), groupBy.Nodup →
      (f.resolve s.layout).Placed s.layout s.snapshot.data →
      ∃ a, s.aggregate f groupBy = .ok a ∧ s.AnswersPaths f groupBy a ∧
        ∀ field path, path.length = groupBy.length → s.ReadsSumAt f groupBy a field path) ∧
    ∀ (s : Stat Rat) (f : Filter) (groupBy : List Dimension), groupBy.Nodup →
      (f.resolve s.layout).Placed s.layout s.snapshot.data →
      ∃ a, s.aggregate f groupBy = .ok a ∧
        ∀ field path, path.length ≤ groupBy.length → s.ReadsSumAt f groupBy a field path := by
  constructor
  · intro α _ s f groupBy distinct placed
    obtain ⟨a, whole⟩ := exists_aggregate placed groupBy
    refine ⟨a, whole, answersPaths whole distinct, fun field path full => ?_⟩
    exact readsSumAt whole distinct full.le (sumsAt_of_full full)
  · intro s f groupBy distinct placed
    obtain ⟨a, whole⟩ := exists_aggregate placed groupBy
    exact ⟨a, whole, fun field path short => readsSumAt whole distinct short sumsAt_of_exact⟩

/-- Two regions of two leagues each, the filter listing one region twice and the other not at
    all. -/
theorem path_answers_by_lists_one_region :
    let l := Layout.ofIds 2 ⟨[0], [0, 1], [0, 5], [0]⟩
    let doubles : Stat Float := ⟨l, ⟨1, 201, 28, 0, 1, 0, #[0.1, 1, 0.2, 2, 0.3, 3, 0.4, 4]⟩⟩
    let rationals : Stat Rat := ⟨l, ⟨1, 201, 28, 0, 1, 0, #[1, 1, 2, 2, 3, 3, 4, 4]⟩⟩
    let f := Filter.empty.set .region [1, 1]
    (∃ a, doubles.aggregate f [.region, .league] = .ok a ∧
      a.get .count [1, 5, 0] = .error (.pathTooLong 3 2) ∧
      a.get .wins [0, 7] = .error (.unknownId .region 0) ∧
      a.get .wins [1, 7] = .error (.unknownId .league 7) ∧
      a.get .count [1, 5] = .ok (0 + 0.4)) ∧
    ∃ a, rationals.aggregate f [.region, .league] = .ok a ∧
      a.get .count [] = .ok 14 ∧ a.get .wins [1] = .ok 7 := by
  intro l doubles rationals f
  obtain ⟨full, anyLength⟩ := path_answers_by_lists
  obtain ⟨a, whole, answers, sums⟩ := full doubles f [.region, .league] (by decide) (by decide)
  obtain ⟨b, whole', sums'⟩ := anyLength rationals f [.region, .league] (by decide) (by decide)
  have listed {path : List Id}
      (h : ∀ x ∈ path.zip [Dimension.region, .league], x.1 ∈ (f.resolve l).ids x.2) :
      ¬ ∃ k d id, (f.resolve l).LeftAt [.region, .league] path k d id :=
    Selection.not_leftAt_of_listed h
  refine ⟨⟨a, whole, ?_, ?_, ?_, ?_⟩, ⟨b, whole', ?_, ?_⟩⟩
  · exact (answers.tooLong .count [1, 5, 0]).mpr (by decide)
  · refine (answers.unknown .wins [0, 7] (by decide) .region 0).mpr ⟨0, ?_⟩
    exact Selection.leftAt_zero_iff.mpr ⟨rfl, rfl, by decide⟩
  · refine (answers.unknown .wins [1, 7] (by decide) .league 7).mpr ⟨1, ?_⟩
    exact Selection.leftAt_succ_iff.mpr
      ⟨by decide, Selection.leftAt_zero_iff.mpr ⟨rfl, rfl, by decide⟩⟩
  · obtain ⟨total, summed, read⟩ := sums .count [1, 5] rfl (listed (by decide))
    cases summed
    exact read
  · obtain ⟨total, summed, read⟩ := sums' .count [] (by decide) (listed (by decide))
    have counted : total.get .count = 14 := by
      cases summed
      decide +kernel
    exact counted ▸ read
  · obtain ⟨total, summed, read⟩ := sums' .wins [1] (by decide) (listed (by decide))
    have counted : total.get .wins = 7 := by
      cases summed
      decide +kernel
    exact counted ▸ read

end Stat

end LadderAtlas
