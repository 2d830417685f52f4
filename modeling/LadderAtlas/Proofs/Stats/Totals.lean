import LadderAtlas.Number.Exact
import LadderAtlas.Proofs.Stats.Breakdown
import Mathlib.Algebra.BigOperators.Group.List.Basic

/-! # Totals of exact aggregates

Over numbers that do not round, the order in which cells are added makes no difference. The total of
every node of an aggregate is then the sum of the cells that are left at it, taken in one go,
whatever dimensions it is broken out by: in any order, repeatedly, over lists that name ids twice or
not at all.
-/

namespace LadderAtlas

namespace Tally

instance : Zero (Tally Rat) := ⟨zero⟩

instance : Add (Tally Rat) := ⟨add⟩

theorem add_def (t u : Tally Rat) :
    t + u = ⟨t.count + u.count, t.wins + u.wins, t.losses + u.losses, t.points + u.points⟩ := rfl

theorem zero_def : (0 : Tally Rat) = ⟨0, 0, 0, 0⟩ := rfl

/-- Exact tallies are added like the numbers that they are made of. -/
instance : AddCommMonoid (Tally Rat) where
  add_assoc t u v := by simp only [add_def, Rat.add_assoc]
  zero_add t := by simp only [add_def, zero_def, Rat.zero_add]
  add_zero t := by simp only [add_def, zero_def, Rat.add_zero]
  add_comm t u := by simp only [add_def, Rat.add_comm]
  nsmul := nsmulRec

/-- Adding a cell is adding what the cell alone comes to, also where it holds fewer numbers than
    four. -/
theorem addCell_eq_add (t : Tally Rat) (cell : List Rat) : t.addCell cell = t + addCell 0 cell := by
  rcases cell with - | ⟨c, - | ⟨w, - | ⟨l, - | ⟨p, rest⟩⟩⟩⟩ <;>
    simp only [addCell, add_def, zero_def, Rat.zero_add, Rat.add_zero]

end Tally

section Exact

variable [Build]

/-- What one cell adds to a sum. -/
def cellTally (l : Layout) (data : Array Rat) (c : Coordinate) : Tally Rat :=
  Tally.addCell 0 ((l.cell? data c).getD [])

/-- The sum of the selected cells, of which none is without a place. -/
def exactSum (l : Layout) (data : Array Rat) (s : Selection) : Tally Rat :=
  (s.coordinates.map (cellTally l data)).sum

theorem addCells_eq_add {l : Layout} {data : Array Rat} {cs : List Coordinate}
    (placed : ∀ c ∈ cs, (l.cell? data c).isSome) (t : Tally Rat) :
    cs.foldlM (addCellAt l data) t = some (t + (cs.map (cellTally l data)).sum) := by
  induction cs generalizing t with
  | nil => simp
  | cons c cs ih =>
      obtain ⟨cell, hc⟩ := Option.isSome_iff_exists.mp (placed c List.mem_cons_self)
      have step : addCellAt l data t c = some (t + cellTally l data c) := by
        simp only [addCellAt, hc, Option.map_some, cellTally, Option.getD_some,
          ← Tally.addCell_eq_add]
      rw [List.foldlM_cons, step, Option.bind_eq_bind, Option.bind_some,
        ih fun c' hc' => placed c' (List.mem_cons_of_mem c hc'), List.map_cons,
        List.sum_cons, add_assoc]

theorem sumCells_eq_exactSum {l : Layout} {data : Array Rat} {s : Selection}
    (placed : s.Placed l data) : sumCells l data s = some (exactSum l data s) := by
  have h := addCells_eq_add placed 0
  rwa [zero_add] at h

/-- A sum is the sum over its narrowings to the ids of one dimension. -/
theorem exactSum_eq_sum_narrowed (l : Layout) (data : Array Rat) (s : Selection) (d : Dimension) :
    exactSum l data s = ((s.ids d).map fun id => exactSum l data (s.narrowed d id)).sum := by
  calc
    exactSum l data s
      = (((s.ids d).flatMap fun id => (s.narrowed d id).coordinates).map (cellTally l data)).sum :=
        ((s.coordinates_perm_narrowed d).map _).sum_eq
    _ = ((s.ids d).map fun id => exactSum l data (s.narrowed d id)).sum := by
        rw [List.map_flatMap, List.flatMap, List.sum_flatten, List.map_map]
        rfl

namespace AggregateTree

variable {l : Layout} {data : Array Rat} {s : Selection}

/-- The total of a tree does not show what it was broken out by. -/
theorem BreaksOut.total_eq {groupBy : List Dimension} {tree : AggregateTree Rat}
    (h : BreaksOut l data s groupBy tree) (placed : s.Placed l data) :
    tree.total = exactSum l data s := by
  induction groupBy generalizing s tree with
  | nil =>
      obtain ⟨total, direct, rfl⟩ := h
      rw [sumCells_eq_exactSum placed, Option.some.injEq] at direct
      exact direct.symm
  | cons d rest ih =>
      obtain ⟨child, below, rfl⟩ := h
      have childTotal : ∀ id ∈ s.ids d, (child id).total = exactSum l data (s.narrowed d id) :=
        fun id listed => ih (below id listed) (placed.narrowed listed)
      calc
        (s.ids d).foldl (fun t id => t + (child id).total) 0
          = ((s.ids d).map fun id => (child id).total).sum := by
            rw [List.sum_eq_foldl, List.foldl_map]
        _ = ((s.ids d).map fun id => exactSum l data (s.narrowed d id)).sum := by
            rw [List.map_congr_left childTotal]
        _ = exactSum l data s := (exactSum_eq_sum_narrowed l data s d).symm

/-- What a node says about the selection that is left at it: its total is the sum of the selected
    cells, and where it is broken out once more, it has a child for each id that the selection lists
    and no other, and the totals of the children add up to its own, a child counting as often as it
    is listed. -/
structure SumsUp (l : Layout) (data : Array Rat) (s : Selection) (next? : Option Dimension)
    (node : AggregateTree Rat) : Prop where
  total : sumCells l data s = some node.total
  isLeaf : node.isLeaf ↔ next? = none
  keys : ∀ d, next? = some d → ∀ id, (node.child? id).isSome ↔ id ∈ s.ids d
  children : ∀ d, next? = some d →
    node.total = ((s.ids d).filterMap node.child?).foldl (fun t c => t.add c.total) Tally.zero

theorem BreaksOut.sumsUp {groupBy : List Dimension} {node : AggregateTree Rat}
    (h : BreaksOut l data s groupBy node) (placed : s.Placed l data) :
    SumsUp l data s groupBy.head? node := by
  have total : sumCells l data s = some node.total := by
    rw [sumCells_eq_exactSum placed, h.total_eq placed]
  cases groupBy with
  | nil =>
      obtain ⟨t, -, rfl⟩ := h
      exact ⟨total, by simp [isLeaf], by simp, by simp⟩
  | cons d rest =>
      obtain ⟨child, -, rfl⟩ := h
      refine ⟨total, by simp [isLeaf], ?_, ?_⟩
      · rintro d' h id
        obtain rfl : d = d' := by simpa using h
        simp [child?_branch]
      · rintro d' h
        obtain rfl : d = d' := by simpa using h
        rw [filterMap_child?_branch, List.foldl_map, AggregateTree.total]

/-- Over exact numbers the aggregate of cells that all have a place exists, its root carries the sum
    of the selected cells, and every node that a path leads to sums up what is left of the selection
    after narrowing it to the ids of the path. -/
theorem aggregate_totals (l : Layout) (data : Array Rat) (s : Selection) (groupBy : List Dimension)
    (placed : s.Placed l data) :
    ∃ tree, aggregate l data s groupBy = some tree ∧
      sumCells l data s = some tree.total ∧
      ∀ path node, tree.descend? path = some node →
        path.length ≤ groupBy.length ∧
        SumsUp l data (s.narrowedAlong groupBy path) groupBy[path.length]? node := by
  obtain ⟨tree, h⟩ := exists_breaksOut placed groupBy
  refine ⟨tree, aggregate_eq_some_iff.mpr h, (h.sumsUp placed).total, ?_⟩
  intro path node found
  obtain ⟨short, inside, below⟩ := h.descend found
  have placedBelow : (s.narrowedAlong groupBy path).Placed l data :=
    fun c hc => placed c (inside hc)
  refine ⟨short, ?_⟩
  rw [← List.head?_drop]
  exact below.sumsUp placedBelow

end AggregateTree

end Exact

namespace AggregateTree

/-- Two regions, one of them listed twice, broken out by region and by region again. The region
    counts twice in the total, though it is one child. -/
theorem aggregate_totals_listed_twice :
    let l := Layout.ofIds 4 ⟨[0], [0, 1], [0], [0]⟩
    let data : Array Rat := #[10, 6, 4, 0, 20, 9, 11, 0]
    let s : Selection := ⟨⟨[0], [1, 0, 1], [0], [0]⟩⟩
    s.Placed l data ∧
      ∃ tree, aggregate l data s [.region, .region] = some tree ∧
        sumCells l data s = some tree.total ∧ tree.total = ⟨50, 24, 26, 0⟩ ∧
        (tree.descend? [1]).map total = some ⟨20, 9, 11, 0⟩ ∧
        (tree.descend? [0, 0]).map total = some ⟨10, 6, 4, 0⟩ ∧ (tree.descend? [0, 1]).isNone ∧
        ∀ path node, tree.descend? path = some node →
          path.length ≤ 2 ∧
          SumsUp l data (s.narrowedAlong [.region, .region] path)
            [Dimension.region, .region][path.length]? node := by
  intro l data s
  have placed : s.Placed l data := by decide
  obtain ⟨tree, broken, summed, nodes⟩ := aggregate_totals l data s [.region, .region] placed
  refine ⟨placed, tree, broken, summed, ?_, ?_, ?_, ?_, nodes⟩ <;> cases broken <;> decide +kernel

end AggregateTree

end LadderAtlas
