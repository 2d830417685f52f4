import LadderAtlas.Proofs.Stats.Addressing
import LadderAtlas.Proofs.Stats.Reading

/-! # The order of grouping and of listing

Narrowing a selection in one dimension leaves the others alone, so what is left of it below a path
of ids depends on the ids and their dimensions, not on the order in which the dimensions were
grouped by. Below a path as long as the grouping the same cells are then added in the same order. At
a shorter path they may be added in another order, as they are where a filter lists its ids in
another order, and only exact numbers read the same.
-/

namespace LadderAtlas

namespace Selection

/-! ## Narrowing along a path -/

theorem ext_ids {s t : Selection} (h : ∀ d, s.ids d = t.ids d) : s = t :=
  congrArg Selection.mk (ByDimension.ext_get h)

theorem ids_narrowed (s : Selection) (d e : Dimension) (id : Id) :
    (s.narrowed d id).ids e = if d = e then [id] else s.ids e :=
  s.chosen.get_set d e [id]

/-- A dimension of which a path names no id is left as it was. -/
theorem ids_narrowedAlong_of_free {s : Selection} {groupBy : List Dimension} {path : List Id}
    {d : Dimension} (free : ∀ id, (id, d) ∉ path.zip groupBy) :
    (s.narrowedAlong groupBy path).ids d = s.ids d := by
  induction path generalizing s groupBy with
  | nil => cases groupBy <;> rfl
  | cons first path ih =>
      cases groupBy with
      | nil => rfl
      | cons e rest =>
          rw [List.zip_cons_cons] at free
          have other : e ≠ d := fun same => free first (same ▸ List.mem_cons_self)
          rw [narrowedAlong, ih fun id named => free id (List.mem_cons_of_mem _ named),
            ids_narrowed, if_neg other]

/-- A dimension that is grouped by once is left with the id that a path names of it. -/
theorem ids_narrowedAlong_of_named {s : Selection} {groupBy : List Dimension} {path : List Id}
    {d : Dimension} {id : Id} (distinct : groupBy.Nodup) (named : (id, d) ∈ path.zip groupBy) :
    (s.narrowedAlong groupBy path).ids d = [id] := by
  induction path generalizing s groupBy with
  | nil => cases named
  | cons first path ih =>
      cases groupBy with
      | nil => cases named
      | cons e rest =>
          obtain ⟨once, distinct⟩ := List.nodup_cons.mp distinct
          rw [List.zip_cons_cons] at named
          rcases List.mem_cons.mp named with here | below
          · cases here
            have free : ∀ id, (id, d) ∉ path.zip rest :=
              fun id again => once (List.of_mem_zip again).2
            rw [narrowedAlong, ids_narrowedAlong_of_free free, ids_narrowed, if_pos rfl]
          · exact ih distinct below

/-- What is left of a selection below a path is settled by the ids that the path names of the
    dimensions. -/
theorem narrowedAlong_congr {s : Selection} {groupBy groupBy' : List Dimension}
    {path path' : List Id} (distinct : groupBy.Nodup) (distinct' : groupBy'.Nodup)
    (same : ∀ x, x ∈ path.zip groupBy ↔ x ∈ path'.zip groupBy') :
    s.narrowedAlong groupBy path = s.narrowedAlong groupBy' path' := by
  refine ext_ids fun d => ?_
  by_cases named : ∃ id, (id, d) ∈ path.zip groupBy
  · obtain ⟨id, here⟩ := named
    rw [ids_narrowedAlong_of_named distinct here,
      ids_narrowedAlong_of_named distinct' ((same _).mp here)]
  · have free : ∀ id, (id, d) ∉ path.zip groupBy := fun id here => named ⟨id, here⟩
    have free' : ∀ id, (id, d) ∉ path'.zip groupBy' := fun id here => free id ((same _).mpr here)
    rw [ids_narrowedAlong_of_free free, ids_narrowedAlong_of_free free']

/-! ## Rearranged lists -/

/-- Two selections list the same ids of every dimension, each as often, in any order. -/
def Rearranges (s t : Selection) : Prop := ∀ d, (s.ids d).Perm (t.ids d)

theorem Rearranges.narrowed {s t : Selection} (h : s.Rearranges t) (d : Dimension) (id : Id) :
    (s.narrowed d id).Rearranges (t.narrowed d id) := by
  intro e
  rw [ids_narrowed, ids_narrowed]
  split
  · exact .refl _
  · exact h e

theorem Rearranges.coordinates {s t : Selection} (h : s.Rearranges t) :
    s.coordinates.Perm t.coordinates := by
  refine .trans (List.Perm.flatMap_left _ fun v _ => ?_) (List.Perm.flatMap_right _ (h .version))
  refine .trans (List.Perm.flatMap_left _ fun r _ => ?_) (List.Perm.flatMap_right _ (h .region))
  refine .trans (List.Perm.flatMap_left _ fun l _ => ?_) (List.Perm.flatMap_right _ (h .league))
  exact (h .race).map _

theorem Rearranges.placed [Build] {α : Type} {s t : Selection} (h : s.Rearranges t) {l : Layout}
    {data : Array α} (placed : s.Placed l data) : t.Placed l data :=
  fun c selected => placed c (h.coordinates.mem_iff.mpr selected)

theorem Rearranges.exactSum [Build] {s t : Selection} (h : s.Rearranges t) (l : Layout)
    (data : Array Rat) :
    exactSum l data s = exactSum l data t :=
  (h.coordinates.map _).sum_eq

end Selection

/-- Filters that list the same ids, each as often, select the same ids. -/
theorem Filter.rearranges_resolve {f f' : Filter} {l : Layout}
    (h : ∀ d, Option.Rel List.Perm (f.get? d) (f'.get? d)) :
    (f.resolve l).Rearranges (f'.resolve l) := by
  intro d
  have alike := h d
  rw [resolve, resolve, Selection.ids, Selection.ids, ByDimension.get_ofFn, ByDimension.get_ofFn]
  generalize f.get? d = listed, f'.get? d = listed' at alike ⊢
  cases alike with
  | some perm => exact perm
  | none => exact .refl _

/-! ## Walking down a tree -/

namespace AggregateTree

variable [Build] {α : Type} [Scalar α] {l : Layout} {data : Array α} {s : Selection}
  {groupBy : List Dimension} {tree : AggregateTree α}

omit [Build] [Scalar α] in
/-- A walk that knows the dimensions of the ids ends where a walk without them ends. -/
theorem walk_eq_ok_iff {path : List Id} {node : AggregateTree α}
    (short : path.length ≤ groupBy.length) :
    Aggregate.walk tree (path.zip groupBy) = .ok node ↔ tree.descend? path = some node := by
  induction path generalizing tree groupBy with
  | nil => simp [Aggregate.walk, descend?]
  | cons id path ih =>
      cases groupBy with
      | nil => cases short
      | cons d rest =>
          rw [List.zip_cons_cons, Aggregate.walk, descend?]
          cases tree.child? id with
          | none => simp
          | some child => exact ih (Nat.le_of_succ_le_succ short)

/-- A path leads to a node exactly if it is no longer than the grouping and names listed ids. -/
theorem BreaksOut.exists_node_iff (h : BreaksOut l data s groupBy tree) (distinct : groupBy.Nodup)
    (path : List Id) : (∃ node, tree.descend? path = some node) ↔
      path.length ≤ groupBy.length ∧ ∀ x ∈ path.zip groupBy, x.1 ∈ s.ids x.2 := by
  induction path generalizing s groupBy tree with
  | nil => simp [descend?]
  | cons id path ih =>
      cases groupBy with
      | nil =>
          obtain ⟨total, -, rfl⟩ := h
          simp
      | cons d rest =>
          obtain ⟨child, below, rfl⟩ := h
          obtain ⟨once, distinct⟩ := List.nodup_cons.mp distinct
          by_cases listed : id ∈ s.ids d
          · -- The narrowed dimension is not grouped by again, so below it the lists are those of
            -- before.
            have others : (∀ x ∈ path.zip rest, x.1 ∈ (s.narrowed d id).ids x.2) ↔
                ∀ x ∈ path.zip rest, x.1 ∈ s.ids x.2 := by
              refine forall₂_congr fun x named => ?_
              have other : d ≠ x.2 := fun same => once (same ▸ (List.of_mem_zip named).2)
              rw [Selection.ids_narrowed, if_neg other]
            simp only [descend?_branch, listed, if_true, ih (below id listed) distinct, others,
              List.length_cons, Nat.add_le_add_iff_right, List.zip_cons_cons,
              List.forall_mem_cons, true_and]
          · simp [descend?_branch, listed]

/-- Below a path as long as the grouping stands the sum of the cells that are left. -/
theorem BreaksOut.sumCells_of_full (h : BreaksOut l data s groupBy tree) {path : List Id}
    {node : AggregateTree α} (found : tree.descend? path = some node)
    (full : path.length = groupBy.length) :
    sumCells l data (s.narrowedAlong groupBy path) = some node.total := by
  obtain ⟨-, -, leaf⟩ := h.descend found
  rw [full, List.drop_length] at leaf
  obtain ⟨total, direct, rfl⟩ := leaf
  exact direct

/-- Over exact numbers the sum of the cells that are left stands below every path. -/
theorem BreaksOut.sumCells_of_exact {data : Array Rat} {tree : AggregateTree Rat}
    (h : BreaksOut l data s groupBy tree) {path : List Id} {node : AggregateTree Rat}
    (found : tree.descend? path = some node) :
    sumCells l data (s.narrowedAlong groupBy path) = some node.total := by
  obtain ⟨-, inside, below⟩ := h.descend found
  exact (below.sumsUp fun c selected => h.placed c (inside selected)).total

/-- Rearranged lists lead to the same ends, with the same totals or the same complaint. -/
theorem BreaksOut.walk_rearranged {data : Array Rat} {t : Selection}
    {tree tree' : AggregateTree Rat} (h : BreaksOut l data s groupBy tree)
    (h' : BreaksOut l data t groupBy tree') (rearranged : s.Rearranges t) (path : List Id) :
    (Aggregate.walk tree (path.zip groupBy)).map total =
      (Aggregate.walk tree' (path.zip groupBy)).map total := by
  have here {groupBy : List Dimension} {s t : Selection} {tree tree' : AggregateTree Rat}
      (h : BreaksOut l data s groupBy tree) (h' : BreaksOut l data t groupBy tree')
      (rearranged : s.Rearranges t) : tree.total = tree'.total := by
    rw [h.total_eq h.placed, h'.total_eq h'.placed, rearranged.exactSum]
  induction path generalizing s t groupBy tree tree' with
  | nil => exact congrArg Except.ok (here h h' rearranged)
  | cons id path ih =>
      cases groupBy with
      | nil => exact congrArg Except.ok (here h h' rearranged)
      | cons d rest =>
          obtain ⟨child, below, rfl⟩ := h
          obtain ⟨child', below', rfl⟩ := h'
          have same := (rearranged d).mem_iff (a := id)
          simp only [List.zip_cons_cons, Aggregate.walk, child?_branch]
          by_cases listed : id ∈ s.ids d
          · have listed' := same.mp listed
            simp only [listed, listed', if_true]
            exact ih (below id listed) (below' id listed') (rearranged.narrowed d id)
          · have unlisted : id ∉ t.ids d := fun listed' => listed (same.mpr listed')
            simp only [listed, unlisted, if_false]

end AggregateTree

open AggregateTree

namespace Stat

section Reading

variable [Build] {α : Type} [Scalar α] {s : Stat α} {f : Filter} {groupBy groupBy' : List Dimension}
  {a b : Aggregate α} {path path' : List Id} {field : Field} {value : α}

theorem exists_aggregate (placed : (f.resolve s.layout).Placed s.layout s.snapshot.data)
    (groupBy : List Dimension) : ∃ a, s.aggregate f groupBy = .ok a := by
  obtain ⟨tree, broken⟩ := exists_breaksOut placed groupBy
  refine ⟨⟨f.resolve s.layout, groupBy, tree⟩, ?_⟩
  simp only [aggregate, aggregate_eq_some_iff.mpr broken]

/-- What the nodes below a path of an aggregate carry is the sum of the cells that are left
    there. -/
def SumsAt (s : Stat α) (f : Filter) (groupBy : List Dimension) (path : List Id) : Prop :=
  ∀ tree node, BreaksOut s.layout s.snapshot.data (f.resolve s.layout) groupBy tree →
    tree.descend? path = some node →
    sumCells s.layout s.snapshot.data ((f.resolve s.layout).narrowedAlong groupBy path) =
      some node.total

theorem sumsAt_of_full (full : path.length = groupBy.length) : s.SumsAt f groupBy path :=
  fun _ _ broken found => broken.sumCells_of_full found full

theorem sumsAt_of_exact {s : Stat Rat} : s.SumsAt f groupBy path :=
  fun _ _ broken found => broken.sumCells_of_exact found

/-- A value is read exactly at the paths that name listed ids. -/
theorem get_eq_ok_iff (h : s.aggregate f groupBy = .ok a) (distinct : groupBy.Nodup)
    (short : path.length ≤ groupBy.length) (sums : s.SumsAt f groupBy path) :
    a.get field path = .ok value ↔ (∀ x ∈ path.zip groupBy, x.1 ∈ (f.resolve s.layout).ids x.2) ∧
      (sumCells s.layout s.snapshot.data ((f.resolve s.layout).narrowedAlong groupBy path)).map
        (·.get field) = some value := by
  obtain ⟨tree, broken, rfl⟩ := aggregate_eq_ok h
  have leads := broken.exists_node_iff distinct path
  rw [Aggregate.get, if_neg (Nat.not_lt.mpr short)]
  constructor
  · intro read
    cases walked : Aggregate.walk tree (path.zip groupBy) with
    | error e =>
        simp only [walked] at read
        cases read
    | ok node =>
        simp only [walked] at read
        cases read
        have found := (walk_eq_ok_iff short).mp walked
        refine ⟨(leads.mp ⟨node, found⟩).2, ?_⟩
        rw [sums tree node broken found]
        rfl
  · rintro ⟨listed, summed⟩
    obtain ⟨node, found⟩ := leads.mpr ⟨short, listed⟩
    rw [sums tree node broken found] at summed
    cases summed
    simp only [(walk_eq_ok_iff short).mpr found]
    rfl

/-- Two groupings are read alike at paths that name the same ids of the same dimensions. -/
theorem get_eq_ok_congr (h : s.aggregate f groupBy = .ok a) (h' : s.aggregate f groupBy' = .ok b)
    (distinct : groupBy.Nodup) (distinct' : groupBy'.Nodup) (short : path.length ≤ groupBy.length)
    (short' : path'.length ≤ groupBy'.length)
    (same : ∀ x, x ∈ path.zip groupBy ↔ x ∈ path'.zip groupBy') (sums : s.SumsAt f groupBy path)
    (sums' : s.SumsAt f groupBy' path') :
    a.get field path = .ok value ↔ b.get field path' = .ok value := by
  rw [get_eq_ok_iff h distinct short sums, get_eq_ok_iff h' distinct' short' sums',
    Selection.narrowedAlong_congr distinct distinct' same]
  simp only [same]

end Reading

/-- Filters that list the same ids in other orders have aggregates that read the same everywhere. -/
theorem get_rearranged [Build] {s : Stat Rat} {f f' : Filter} {groupBy : List Dimension}
    {a b : Aggregate Rat} (h : s.aggregate f groupBy = .ok a) (h' : s.aggregate f' groupBy = .ok b)
    (rearranged : ∀ d, Option.Rel List.Perm (f.get? d) (f'.get? d)) (field : Field)
    (path : List Id) :
    a.get field path = b.get field path := by
  obtain ⟨tree, broken, rfl⟩ := aggregate_eq_ok h
  obtain ⟨tree', broken', rfl⟩ := aggregate_eq_ok h'
  have same := broken.walk_rearranged broken' (Filter.rearranges_resolve rearranged) path
  have read (tree : AggregateTree Rat) (xs : List (Id × Dimension)) :
      (do return (← Aggregate.walk tree xs).total.get field) =
        ((Aggregate.walk tree xs).map AggregateTree.total).map (·.get field) := by
    cases Aggregate.walk tree xs <;> rfl
  simp only [Aggregate.get]
  split
  · rfl
  · rw [read, read, same]

/-- How an aggregate reads that is grouped in another order, or of a filter that lists its ids in
    another order. Paths belong together if they name the same ids of the same dimensions. As long
    as the groupings, they read the same to the last bit; over exact numbers they do so at any
    length, and the order of the lists shows nowhere. -/
theorem readings_ignore_order [Build] :
    (∀ {α : Type} [Scalar α] (s : Stat α) (f : Filter) (groupBy groupBy' : List Dimension),
      groupBy.Nodup → groupBy.Perm groupBy' → (f.resolve s.layout).Placed s.layout s.snapshot.data →
      ∃ a b, s.aggregate f groupBy = .ok a ∧ s.aggregate f groupBy' = .ok b ∧
        ∀ (field : Field) (path path' : List Id),
          path.length = groupBy.length → path'.length = groupBy'.length →
          (∀ x, x ∈ path.zip groupBy ↔ x ∈ path'.zip groupBy') →
          ∀ value, a.get field path = .ok value ↔ b.get field path' = .ok value) ∧
    (∀ (s : Stat Rat) (f : Filter) (groupBy groupBy' : List Dimension),
      groupBy.Nodup → groupBy.Perm groupBy' → (f.resolve s.layout).Placed s.layout s.snapshot.data →
      ∃ a b, s.aggregate f groupBy = .ok a ∧ s.aggregate f groupBy' = .ok b ∧
        ∀ (field : Field) (path path' : List Id),
          path.length ≤ groupBy.length → path'.length ≤ groupBy'.length →
          (∀ x, x ∈ path.zip groupBy ↔ x ∈ path'.zip groupBy') →
          ∀ value, a.get field path = .ok value ↔ b.get field path' = .ok value) ∧
    ∀ (s : Stat Rat) (f f' : Filter) (groupBy : List Dimension),
      (∀ d, Option.Rel List.Perm (f.get? d) (f'.get? d)) →
      (f.resolve s.layout).Placed s.layout s.snapshot.data →
      ∃ a b, s.aggregate f groupBy = .ok a ∧ s.aggregate f' groupBy = .ok b ∧
        ∀ (field : Field) (path : List Id), a.get field path = b.get field path := by
  refine ⟨?_, ?_, ?_⟩
  · intro α _ s f groupBy groupBy' distinct perm placed
    obtain ⟨a, whole⟩ := exists_aggregate placed groupBy
    obtain ⟨b, whole'⟩ := exists_aggregate placed groupBy'
    refine ⟨a, b, whole, whole', fun field path path' full full' same value => ?_⟩
    exact get_eq_ok_congr whole whole' distinct (perm.nodup_iff.mp distinct) full.le full'.le same
      (sumsAt_of_full full) (sumsAt_of_full full')
  · intro s f groupBy groupBy' distinct perm placed
    obtain ⟨a, whole⟩ := exists_aggregate placed groupBy
    obtain ⟨b, whole'⟩ := exists_aggregate placed groupBy'
    refine ⟨a, b, whole, whole', fun field path path' short short' same value => ?_⟩
    exact get_eq_ok_congr whole whole' distinct (perm.nodup_iff.mp distinct) short short' same
      sumsAt_of_exact sumsAt_of_exact
  · intro s f f' groupBy rearranged placed
    obtain ⟨a, whole⟩ := exists_aggregate placed groupBy
    have placed' := (Filter.rearranges_resolve rearranged).placed placed
    obtain ⟨b, whole'⟩ := exists_aggregate placed' groupBy
    exact ⟨a, b, whole, whole', get_rearranged whole whole' rearranged⟩

/-- Two regions and two leagues, one region listed twice: each way of grouping by both, cells of
    doubles at the ends of the paths, exact ones above them, and the doubled region in another place
    of the list. -/
theorem readings_ignore_order_two_regions :
    let l := Layout.ofIds 4 ⟨[0], [0, 1], [0, 5], [0]⟩
    let doubles : Stat Float :=
      ⟨l, ⟨1, 201, 28, 0, 1, 0, #[0.1, 0, 0, 0, 0.2, 0, 0, 0, 0.3, 0, 0, 0, 0.4, 0, 0, 0]⟩⟩
    let rationals : Stat Rat :=
      ⟨l, ⟨1, 201, 28, 0, 1, 0, #[1, 0, 0, 0, 2, 0, 0, 0, 3, 0, 0, 0, 4, 0, 0, 0]⟩⟩
    let f := Filter.empty.set .region [1, 0, 1]
    let f' := Filter.empty.set .region [1, 1, 0]
    (∃ a b, doubles.aggregate f [.region, .league] = .ok a ∧
      doubles.aggregate f [.league, .region] = .ok b ∧
      ∀ value, a.get .count [1, 5] = .ok value ↔ b.get .count [5, 1] = .ok value) ∧
    (∃ a b, rationals.aggregate f [.region, .league, .race] = .ok a ∧
      rationals.aggregate f [.league, .region, .race] = .ok b ∧
      ∀ value, a.get .count [1, 5] = .ok value ↔ b.get .count [5, 1] = .ok value) ∧
    ∃ a b, rationals.aggregate f [.league, .region] = .ok a ∧
      rationals.aggregate f' [.league, .region] = .ok b ∧
      a.get .count [5] = b.get .count [5] := by
  intro l doubles rationals f f'
  obtain ⟨full, anyLength, listed⟩ := readings_ignore_order
  have placed : (f.resolve l).Placed l doubles.snapshot.data := by decide
  have placed' : (f.resolve l).Placed l rationals.snapshot.data := by decide
  have same {first second : Id} {d e : Dimension} (x : Id × Dimension) :
      x ∈ [(first, d), (second, e)] ↔ x ∈ [(second, e), (first, d)] := by simp [or_comm]
  have rearranged : ∀ d, Option.Rel List.Perm (f.get? d) (f'.get? d) := by
    intro d
    cases d with
    | region => exact .some (by decide)
    | version | league | race => exact .none
  obtain ⟨a, b, whole, whole', alike⟩ :=
    full doubles f [.region, .league] [.league, .region] (by decide) (by decide) placed
  obtain ⟨c, d, whole₁, whole₁', alike₁⟩ :=
    anyLength rationals f [.region, .league, .race] [.league, .region, .race] (by decide)
      (by decide) placed'
  obtain ⟨m, n, whole₂, whole₂', alike₂⟩ :=
    listed rationals f f' [.league, .region] rearranged placed'
  exact ⟨⟨a, b, whole, whole', alike .count [1, 5] [5, 1] rfl rfl same⟩,
    ⟨c, d, whole₁, whole₁', alike₁ .count [1, 5] [5, 1] (by decide) (by decide) same⟩,
    ⟨m, n, whole₂, whole₂', alike₂ .count [5]⟩⟩

end Stat

end LadderAtlas
