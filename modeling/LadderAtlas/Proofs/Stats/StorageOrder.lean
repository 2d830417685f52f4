import LadderAtlas.Proofs.Stats.Addressing

/-! # Cells in the order of storage

Where ids are listed in the order of their slots, four loops over all of them come to the cells in
the order in which these are stored: the first cell first, none left out and none taken twice.
Summing without a filter is then one pass over the data, cell after cell, and rounds as that pass
does. Nothing has to be asked of the sizes for it: what the check of a snapshot lets through has
addresses for all cells.
-/

namespace LadderAtlas

namespace Tally

variable {α : Type} [Scalar α]

/-- Add numbers to sums place by place, as far as both go. -/
def addNumbers : List α → List α → List α
  | sum :: sums, number :: numbers => (sum + number) :: addNumbers sums numbers
  | sums, _ => sums

theorem toList_addCell (t : Tally α) (cell : List α) :
    (t.addCell cell).toList = addNumbers t.toList cell := by
  rcases cell with - | ⟨c, - | ⟨w, - | ⟨l, - | ⟨p, rest⟩⟩⟩⟩ <;> rfl

theorem toList_addCells (t : Tally α) (cells : List (List α)) :
    (cells.foldl addCell t).toList = cells.foldl addNumbers t.toList :=
  (List.foldl_hom toList fun t cell => (toList_addCell t cell).symm).symm

end Tally

namespace Layout

/-- Every dimension lists its ids in the order of their slots, one id for each slot. -/
def ListsInOrder (l : Layout) : Prop :=
  ∀ d, (l.ids d).map (l.index? d) = (List.range (l.count d)).map some

theorem Indexes.listsInOrder {l : Layout} {ids : ByDimension (List Id)} (h : l.Indexes ids)
    (distinct : ∀ d, (ids.get d).Nodup) : l.ListsInOrder := by
  intro d
  rw [h.ids_eq d, h.count_eq d]
  refine List.ext_getElem (by simp) fun i inside _ => ?_
  rw [List.length_map] at inside
  rw [List.getElem_map, List.getElem_map, List.getElem_range]
  have known : l.contains d (ids.get d)[i] = true := h.contains (List.getElem_mem inside)
  obtain ⟨slot, found⟩ := Option.isSome_iff_exists.mp known
  obtain ⟨inside', same⟩ := List.getElem?_eq_some_iff.mp (h.listed found)
  rw [found, (distinct d).getElem_inj_iff.mp same]

/-! ## Four loops -/

/-- The loop over the ids of one dimension puts the stretches that belong to its slots one after
    another. -/
theorem flatMap_stretches {ids : List Id} {slot : Id → Nat} {m : Nat}
    (inOrder : ids.map slot = List.range m) (x n : Nat) :
    (ids.flatMap fun id => List.range' ((x * m + slot id) * n) n) =
      List.range' (x * (m * n)) (m * n) := by
  have upTo (k : Nat) : ((List.range k).flatMap fun i => List.range' ((x * m + i) * n) n) =
      List.range' (x * m * n) (k * n) := by
    induction k with
    | zero => simp
    | succ k ih =>
        rw [List.range_succ, List.flatMap_append, ih, List.flatMap_singleton, Nat.add_mul,
          Nat.succ_mul]
        exact List.range'_append_1
  calc
    (ids.flatMap fun id => List.range' ((x * m + slot id) * n) n)
      = (ids.map slot).flatMap fun i => List.range' ((x * m + i) * n) n := by rw [List.flatMap_map]
    _ = List.range' (x * (m * n)) (m * n) := by rw [inOrder, upTo, Nat.mul_assoc]

variable {l : Layout}

/-- The slot of an id, zero for one without a slot. -/
def slotOf (l : Layout) (d : Dimension) (id : Id) : Nat := (l.index? d id).getD 0

theorem ListsInOrder.map_slotOf (h : l.ListsInOrder) (d : Dimension) :
    (l.ids d).map (l.slotOf d) = List.range (l.count d) := by
  calc (l.ids d).map (l.slotOf d)
    _ = ((l.ids d).map (l.index? d)).map (·.getD 0) := by
        rw [List.map_map]
        rfl
    _ = List.range (l.count d) := by
        rw [h d, List.map_map]
        exact List.map_id _

theorem ListsInOrder.index?_eq_slotOf (h : l.ListsInOrder) {d : Dimension} {id : Id}
    (listed : id ∈ l.ids d) :
    l.index? d id = some (l.slotOf d id) := by
  have found : l.index? d id ∈ (List.range (l.count d)).map some := h d ▸ List.mem_map_of_mem listed
  obtain ⟨i, -, same⟩ := List.mem_map.mp found
  rw [slotOf, ← same, Option.getD_some]

theorem ListsInOrder.number?_eq (h : l.ListsInOrder) {c : Coordinate}
    (selected : c ∈ (Filter.empty.resolve l).coordinates) :
    l.number? c = some (l.cellNumber (.ofFn fun d => l.slotOf d (c.get d))) := by
  have listed := Selection.mem_coordinates.mp selected
  have found (d : Dimension) :
      l.index? d (c.get d) = some ((ByDimension.ofFn fun d => l.slotOf d (c.get d)).get d) := by
    rw [ByDimension.get_ofFn]
    exact h.index?_eq_slotOf (by cases d <;> exact listed _)
  rw [number?, slots?_eq_some found, Option.map_some]

/-- From the inside out, each of the four loops turns the stretches of the loops in it into one. -/
theorem ListsInOrder.cellNumbers (h : l.ListsInOrder) :
    ((l.ids .version).flatMap fun v => (l.ids .region).flatMap fun r =>
      (l.ids .league).flatMap fun g =>
      (l.ids .race).map fun a => ((l.slotOf .version v * l.count .region + l.slotOf .region r)
        * l.count .league + l.slotOf .league g) * l.count .race + l.slotOf .race a) =
      List.range l.cellCount := by
  have races (x : Nat) : ((l.ids .race).map fun a => x * l.count .race + l.slotOf .race a) =
      List.range' (x * l.count .race) (l.count .race) := by
    have single := flatMap_stretches (h.map_slotOf .race) x 1
    simpa only [Nat.mul_one, List.range'_one, ← List.map_eq_flatMap] using single
  have leagues (x : Nat) := flatMap_stretches (h.map_slotOf .league) x (l.count .race)
  have regions (x : Nat) :=
    flatMap_stretches (h.map_slotOf .region) x (l.count .league * l.count .race)
  have versions := flatMap_stretches (h.map_slotOf .version) 0
    (l.count .region * (l.count .league * l.count .race))
  simp only [Nat.zero_mul, Nat.zero_add, ← List.range_eq_range'] at versions
  simp only [races, leagues, regions, versions, cellCount, Nat.mul_assoc]

/-- All cells in turn have the numbers from zero up. -/
theorem ListsInOrder.map_number? (h : l.ListsInOrder) :
    (Filter.empty.resolve l).coordinates.map l.number? = (List.range l.cellCount).map some := by
  calc (Filter.empty.resolve l).coordinates.map l.number?
    _ = ((Filter.empty.resolve l).coordinates.map fun c =>
          l.cellNumber (.ofFn fun d => l.slotOf d (c.get d))).map some := by
        rw [List.map_map]
        exact List.map_congr_left fun c selected => h.number?_eq selected
    _ = (List.range l.cellCount).map some := by
        rw [← h.cellNumbers]
        simp only [Selection.coordinates, List.map_flatMap, List.map_map]
        rfl

/-! ## One pass over the data -/

variable {α : Type} {data : Array α}

/-- The cells of all coordinates in turn are the data, cut into parts of the size of a cell. -/
theorem ListsInOrder.exists_cells (h : l.ListsInOrder) (counted : l.cellCount < Word.limit)
    (length : l.dataLength? = some data.size) :
    ∃ cells : List (List α), (∀ cell ∈ cells, cell.length = l.cellSize) ∧
      cells.flatten = data.toList ∧
      (Filter.empty.resolve l).coordinates.map (l.cell? data) = cells.map some := by
  let slice (n : Nat) : List α :=
    (data.extract (l.cellSize * n) (l.cellSize * n + l.cellSize)).toList
  have whole : data.size = l.cellSize * l.cellCount := (dataLength?_eq_some length).1
  have upTo (k : Nat) : ((List.range k).map slice).flatten =
      (data.extract 0 (l.cellSize * k)).toList := by
    induction k with
    | zero => simp
    | succ k ih =>
        rw [List.range_succ, List.map_append, List.flatten_append, ih, List.map_singleton,
          List.flatten_singleton, ← Array.toList_append, Array.extract_append_extract,
          Nat.min_eq_left (Nat.zero_le _), Nat.max_eq_right (Nat.le_add_right _ _), Nat.mul_succ]
  have decoded : ∀ c ∈ (Filter.empty.resolve l).coordinates,
      l.cell? data c = (l.number? c).map slice := by
    intro c selected
    have member : l.number? c ∈ (List.range l.cellCount).map some :=
      h.map_number? ▸ List.mem_map_of_mem selected
    obtain ⟨n, below, number⟩ := List.mem_map.mp member
    rw [(cell?_of_number counted length number.symm (List.mem_range.mp below)).2, ← number]
    rfl
  refine ⟨(List.range l.cellCount).map slice, fun cell member => ?_, ?_, ?_⟩
  · obtain ⟨n, below, rfl⟩ := List.mem_map.mp member
    have inside : l.cellSize * (n + 1) ≤ l.cellSize * l.cellCount :=
      Nat.mul_le_mul_left _ (List.mem_range.mp below)
    rw [Nat.mul_succ, ← whole] at inside
    rw [Array.length_toList, Array.size_extract]
    omega
  · rw [upTo, ← whole, Array.extract_size]
  · calc (Filter.empty.resolve l).coordinates.map (l.cell? data)
      _ = ((Filter.empty.resolve l).coordinates.map l.number?).map (Option.map slice) := by
          rw [List.map_map]
          exact List.map_congr_left decoded
      _ = ((List.range l.cellCount).map slice).map some := by
          rw [h.map_number?, List.map_map, List.map_map]
          rfl

end Layout

/-- Cells that are decoded one after another are added one after another. -/
theorem addCells_of_decoded {α : Type} [Scalar α] {l : Layout} {data : Array α}
    {cs : List Coordinate} {cells : List (List α)}
    (decoded : cs.map (l.cell? data) = cells.map some) (t : Tally α) :
    cs.foldlM (addCellAt l data) t = some (cells.foldl Tally.addCell t) := by
  induction cs generalizing cells t with
  | nil =>
      obtain rfl : cells = [] := by simpa using decoded.symm
      rfl
  | cons c cs ih =>
      obtain ⟨cell, cells, rfl⟩ : ∃ cell rest, cells = cell :: rest := by
        cases cells with
        | nil => cases decoded
        | cons cell rest => exact ⟨cell, rest, rfl⟩
      obtain ⟨first, decoded⟩ := List.cons_eq_cons.mp decoded
      have step : addCellAt l data t c = some (t.addCell cell) := by
        rw [addCellAt, first, Option.map_some]
      rw [List.foldlM_cons, step, Option.bind_eq_bind, Option.bind_some, ih decoded,
        List.foldl_cons]

namespace Stat

/-- Over the layout of lists of distinct ids, summing without a filter is one pass over the data:
    the numbers of one cell after another, as many of each as there are of the first four, are added
    to four zeros. This is so for numbers that round as for those that do not. -/
theorem unfiltered_in_storage_order {α : Type} [Scalar α] (cellSize : Nat)
    (ids : ByDimension (List Id)) (distinct : ∀ d, (ids.get d).Nodup) (l : Layout)
    (built : Layout.ofIds? cellSize ids = some l) (t : Snapshot α) (valid : l.validate t = .ok ()) :
    ∃ cells : List (List α),
      (∀ cell ∈ cells, cell.length = cellSize) ∧ cells.flatten = t.data.toList ∧
      ∃ total, sum ⟨l, t⟩ .empty = .ok total ∧
        total.toList = cells.foldl Tally.addNumbers [0, 0, 0, 0] := by
  obtain ⟨rfl, indexes, -⟩ := Layout.indexes_of_ofIds? built
  have counted := Layout.cellCount_lt_of_ofIds? rfl built
  obtain ⟨cells, size, flatten, decoded⟩ :=
    (indexes.listsInOrder distinct).exists_cells counted (Layout.validate_eq_ok_iff.mp valid)
  refine ⟨cells, size, flatten, cells.foldl Tally.addCell Tally.zero, ?_,
    Tally.toList_addCells _ cells⟩
  have summed : sumCells l t.data (Filter.empty.resolve l) =
      some (cells.foldl Tally.addCell Tally.zero) := addCells_of_decoded decoded Tally.zero
  simp only [sum, summed]

/-- Two regions and two races with cells of two doubles, which are fewer than four. -/
theorem unfiltered_in_storage_order_two_regions :
    let ids : ByDimension (List Id) := ⟨[0], [3, 1], [5], [-1, 0]⟩
    let l := Layout.ofIds 2 ids
    let t : Snapshot Float := ⟨1, 201, 28, 0, 1, 0, #[0.1, 1, 0.2, 2, 0.3, 3, 0.4, 4]⟩
    (∀ d, (ids.get d).Nodup) ∧ Layout.ofIds? 2 ids = some l ∧ l.validate t = .ok () ∧
      ∃ cells : List (List Float), (∀ cell ∈ cells, cell.length = 2) ∧
        cells.flatten = t.data.toList ∧ ∃ total, sum ⟨l, t⟩ .empty = .ok total ∧
          total.toList = cells.foldl Tally.addNumbers [0, 0, 0, 0] ∧
          total.toList = [0 + 0.1 + 0.2 + 0.3 + 0.4, 0 + 1 + 2 + 3 + 4, 0, 0] := by
  intro ids l t
  have distinct : ∀ d, (ids.get d).Nodup := fun d => by cases d <;> decide
  have built : Layout.ofIds? 2 ids = some l := by decide
  have valid : l.validate t = .ok () := by decide
  obtain ⟨cells, size, flatten, total, summed, passed⟩ :=
    unfiltered_in_storage_order 2 ids distinct l built t valid
  refine ⟨distinct, built, valid, cells, size, flatten, total, summed, passed, ?_⟩
  have exact : sumCells l t.data (Filter.empty.resolve l) =
      some ⟨0 + 0.1 + 0.2 + 0.3 + 0.4, 0 + 1 + 2 + 3 + 4, 0, 0⟩ := by rfl
  simp only [sum, exact] at summed
  rw [← Except.ok.inj summed]
  rfl

end Stat

end LadderAtlas
