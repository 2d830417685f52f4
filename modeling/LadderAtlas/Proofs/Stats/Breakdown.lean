import LadderAtlas.Proofs.Stats.Selection

/-! # What aggregates are made of

`BreaksOut` says of a tree what breaking a selection out by some dimensions means, one case for each
level. It holds over all numbers, rounding ones included: a leaf carries the sum of the cells that
are left, a branch one child for each listed id and the sum of their totals in the order of the
list. Aggregation gives exactly such trees, and it gives one whenever every selected cell has a
place.
-/

namespace LadderAtlas

theorem mapM_eq_some_of_forall {β γ : Type} {f : β → Option γ} {g : β → γ} {xs : List β}
    (h : ∀ x ∈ xs, f x = some (g x)) : xs.mapM f = some (xs.map g) := by
  induction xs with
  | nil => rfl
  | cons x xs ih =>
      have hx : f x = some (g x) := h x List.mem_cons_self
      have hxs := ih fun y hy => h y (List.mem_cons_of_mem x hy)
      simp [List.mapM_cons, hx, hxs]

theorem eq_some_of_mapM_eq_some {β γ : Type} {f : β → Option γ} {xs : List β} {ys : List γ}
    (h : xs.mapM f = some ys) : ∀ x ∈ xs, ∃ y, f x = some y := by
  induction xs generalizing ys with
  | nil => simp
  | cons x xs ih =>
      simp only [List.mapM_cons, Option.bind_eq_bind, Option.bind_eq_some_iff] at h
      obtain ⟨y, hy, zs, hzs, -⟩ := h
      exact List.forall_mem_cons.mpr ⟨⟨y, hy⟩, ih hzs⟩

/-- A list of keys, each with a value that depends on nothing but the key, is looked up like the
    function that gives the values. -/
theorem Keyed.find_map_pair {κ β : Type} [DecidableEq κ] (f : κ → β) (keys : List κ) (key : κ) :
    Keyed.find key (keys.map fun k => (k, f k)) = if key ∈ keys then some (f key) else none := by
  induction keys with
  | nil => rfl
  | cons k keys ih =>
      by_cases h : k = key
      · subst h
        simp [Keyed.find]
      · have other : key ≠ k := fun e => h e.symm
        simp [Keyed.find, ih, h, other]

variable [Build] {α : Type} [Scalar α]

/-- Every cell of a list has a place if and only if the cells can be added up. -/
theorem addCells_isSome_iff (l : Layout) (data : Array α) (t : Tally α) (cs : List Coordinate) :
    (cs.foldlM (addCellAt l data) t).isSome ↔ ∀ c ∈ cs, (l.cell? data c).isSome := by
  induction cs generalizing t with
  | nil => simp
  | cons c cs ih =>
      cases hc : l.cell? data c with
      | none => simp [List.foldlM_cons, addCellAt, hc]
      | some cell => simp [List.foldlM_cons, addCellAt, hc, ih]

theorem sumCells_isSome_iff {l : Layout} {data : Array α} {s : Selection} :
    (sumCells l data s).isSome ↔ s.Placed l data :=
  addCells_isSome_iff l data Tally.zero s.coordinates

namespace AggregateTree

/-- The tree breaks the selected cells out by the dimensions, the first one outermost. -/
def BreaksOut (l : Layout) (data : Array α) (s : Selection) :
    List Dimension → AggregateTree α → Prop
  | [], tree => ∃ total, sumCells l data s = some total ∧ tree = .leaf total
  | d :: rest, tree => ∃ child : Id → AggregateTree α,
      (∀ id ∈ s.ids d, BreaksOut l data (s.narrowed d id) rest (child id)) ∧
      tree = .branch ((s.ids d).map fun id => (id, child id))
        ((s.ids d).foldl (fun t id => t.add (child id).total) Tally.zero)

variable {l : Layout} {data : Array α} {s : Selection} {groupBy : List Dimension}
  {tree : AggregateTree α}

omit [Build] [Scalar α] in
/-- The children of a branch are found under the listed ids and no others. -/
theorem child?_branch (child : Id → AggregateTree α) (ids : List Id) (total : Tally α) (id : Id) :
    (AggregateTree.branch (ids.map fun id => (id, child id)) total).child? id =
      if id ∈ ids then some (child id) else none :=
  Keyed.find_map_pair child ids id

omit [Build] [Scalar α] in
/-- Looking the children up by the list of ids gives one for each entry of the list. -/
theorem filterMap_child?_branch (child : Id → AggregateTree α) (ids : List Id) (total : Tally α) :
    ids.filterMap (AggregateTree.branch (ids.map fun id => (id, child id)) total).child? =
      ids.map child := by
  have found : ∀ id ∈ ids,
      (AggregateTree.branch (ids.map fun id => (id, child id)) total).child? id =
        some (child id) := fun id listed => by rw [child?_branch, if_pos listed]
  rw [List.filterMap_congr found]
  exact congrFun List.filterMap_eq_map ids

omit [Build] [Scalar α] in
@[simp]
theorem descend?_leaf (total : Tally α) (id : Id) (path : List Id) :
    (AggregateTree.leaf total).descend? (id :: path) = none := rfl

omit [Build] [Scalar α] in
/-- A path leads through a branch by the child of its first id, if that one is listed. -/
theorem descend?_branch (child : Id → AggregateTree α) (ids : List Id) (total : Tally α) (id : Id)
    (path : List Id) :
    (AggregateTree.branch (ids.map fun id => (id, child id)) total).descend? (id :: path) =
      if id ∈ ids then (child id).descend? path else none := by
  rw [descend?, child?_branch, Option.bind_eq_bind]
  split <;> rfl

omit [Build] [Scalar α] in
theorem descend?_branch_eq_some_iff {child : Id → AggregateTree α} {ids : List Id}
    {total : Tally α} {id : Id} {path : List Id} {node : AggregateTree α} :
    (AggregateTree.branch (ids.map fun id => (id, child id)) total).descend? (id :: path) =
      some node ↔
      id ∈ ids ∧ (child id).descend? path = some node := by
  rw [descend?_branch, Option.ite_none_right_eq_some]

/-- Below a path of ids stands the same as if the selection had been narrowed to them beforehand,
    and the narrowing selects no new cells. -/
theorem BreaksOut.descend {path : List Id} {node : AggregateTree α}
    (h : BreaksOut l data s groupBy tree) (found : tree.descend? path = some node) :
    path.length ≤ groupBy.length ∧
      (s.narrowedAlong groupBy path).coordinates ⊆ s.coordinates ∧
      BreaksOut l data (s.narrowedAlong groupBy path) (groupBy.drop path.length) node := by
  induction path generalizing s groupBy tree with
  | nil =>
      obtain rfl : tree = node := by simpa [descend?] using found
      simp only [Selection.narrowedAlong, List.length_nil, List.drop_zero]
      exact ⟨Nat.zero_le _, List.Subset.refl _, h⟩
  | cons id path ih =>
      cases groupBy with
      | nil =>
          obtain ⟨total, -, rfl⟩ := h
          simp at found
      | cons d rest =>
          obtain ⟨child, below, rfl⟩ := h
          obtain ⟨listed, further⟩ := descend?_branch_eq_some_iff.mp found
          obtain ⟨short, inside, deeper⟩ := ih (below id listed) further
          refine ⟨Nat.succ_le_succ short, fun c hc => ?_, deeper⟩
          exact Selection.mem_coordinates_of_narrowed listed (inside hc)

/-- Only cells that have a place are broken out. -/
theorem BreaksOut.placed (h : BreaksOut l data s groupBy tree) : s.Placed l data := by
  induction groupBy generalizing s tree with
  | nil =>
      obtain ⟨total, summed, -⟩ := h
      exact sumCells_isSome_iff.mp (Option.isSome_of_eq_some summed)
  | cons d rest ih =>
      obtain ⟨child, below, -⟩ := h
      intro c selected
      obtain ⟨id, listed, narrowed⟩ :=
        List.mem_flatMap.mp ((s.coordinates_perm_narrowed d).mem_iff.mp selected)
      exact ih (below id listed) c narrowed

/-- A selection whose cells all have a place can be broken out by any dimensions. -/
theorem exists_breaksOut (placed : s.Placed l data) (groupBy : List Dimension) :
    ∃ tree : AggregateTree α, BreaksOut l data s groupBy tree := by
  induction groupBy generalizing s with
  | nil =>
      obtain ⟨total, h⟩ := Option.isSome_iff_exists.mp (sumCells_isSome_iff.mpr placed)
      exact ⟨.leaf total, total, h, rfl⟩
  | cons d rest ih =>
      have below : ∀ id, ∃ child : AggregateTree α,
          id ∈ s.ids d → BreaksOut l data (s.narrowed d id) rest child := by
        intro id
        by_cases listed : id ∈ s.ids d
        · obtain ⟨child, h⟩ := ih (placed.narrowed listed)
          exact ⟨child, fun _ => h⟩
        · exact ⟨.leaf Tally.zero, fun listed' => absurd listed' listed⟩
      choose child h using below
      exact ⟨_, child, h, rfl⟩

end AggregateTree

open AggregateTree

/-- One level of an aggregate from the aggregates of the listed ids. -/
theorem aggregate_cons_eq_branch {l : Layout} {data : Array α} {s : Selection} {d : Dimension}
    {rest : List Dimension} {child : Id → AggregateTree α}
    (h : ∀ id ∈ s.ids d, aggregate l data (s.narrowed d id) rest = some (child id)) :
    aggregate l data s (d :: rest) = some (.branch ((s.ids d).map fun id => (id, child id))
      ((s.ids d).foldl (fun t id => t.add (child id).total) Tally.zero)) := by
  have entries : ((s.ids d).mapM fun id => do
      return (id, ← aggregate l data (s.narrowed d id) rest)) =
      some ((s.ids d).map fun id => (id, child id)) := by
    apply mapM_eq_some_of_forall
    intro id listed
    simp [h id listed]
  simp only [aggregate]
  rw [entries]
  simp [List.foldl_map]

/-- Where there is an aggregate, there is one for each listed id. -/
theorem exists_child_of_aggregate_cons {l : Layout} {data : Array α} {s : Selection} {d : Dimension}
    {rest : List Dimension} {tree : AggregateTree α}
    (h : aggregate l data s (d :: rest) = some tree) :
    ∀ id ∈ s.ids d, ∃ child, aggregate l data (s.narrowed d id) rest = some child := by
  simp only [aggregate, Option.bind_eq_bind, Option.bind_eq_some_iff] at h
  obtain ⟨children, given, -⟩ := h
  intro id listed
  obtain ⟨pair, hpair⟩ := eq_some_of_mapM_eq_some given id listed
  obtain ⟨child, hchild, -⟩ := Option.bind_eq_some_iff.mp hpair
  exact ⟨child, hchild⟩

/-- Aggregation gives the trees that break a selection out, and nothing else. -/
theorem aggregate_eq_some_iff {l : Layout} {data : Array α} {s : Selection}
    {groupBy : List Dimension} {tree : AggregateTree α} :
    aggregate l data s groupBy = some tree ↔ BreaksOut l data s groupBy tree := by
  induction groupBy generalizing s tree with
  | nil => simp [aggregate, BreaksOut, eq_comm]
  | cons d rest ih =>
      constructor
      · intro h
        have below := exists_child_of_aggregate_cons h
        -- The children are a function of the ids that they belong to.
        let child (id : Id) := (aggregate l data (s.narrowed d id) rest).getD (.leaf Tally.zero)
        have childEq : ∀ id ∈ s.ids d,
            aggregate l data (s.narrowed d id) rest = some (child id) := by
          intro id listed
          obtain ⟨t, ht⟩ := below id listed
          simp only [child, ht, Option.getD_some]
        rw [aggregate_cons_eq_branch childEq, Option.some.injEq] at h
        exact ⟨child, fun id listed => ih.mp (childEq id listed), h.symm⟩
      · rintro ⟨child, below, rfl⟩
        exact aggregate_cons_eq_branch fun id listed => ih.mpr (below id listed)

end LadderAtlas
