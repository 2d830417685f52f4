import LadderAtlas.Proofs.Stats.Rearranging
import Mathlib.Algebra.BigOperators.Group.List.Basic
import Mathlib.Algebra.Field.Rat

/-! # What an aggregate depends on

An aggregate is made of the selected cells and of nothing else in the data. Where no cell is
selected it is made of nothing: every node carries zeros, whatever the layout says and however long
the data are. Where one cell of the data is changed, only those nodes can tell that the cell is left
at: the others are the same to the last bit, and over exact numbers these change by the change of
the cell, as often as it is listed.
-/

namespace LadderAtlas

section Congruence

variable {α : Type} [Scalar α] {l l' : Layout} {data data' : Array α} {s : Selection}
  {groupBy : List Dimension}

theorem addCells_congr {cs : List Coordinate} (same : ∀ c ∈ cs, l.cell? data c = l'.cell? data' c)
    (t : Tally α) : cs.foldlM (addCellAt l data) t = cs.foldlM (addCellAt l' data') t := by
  induction cs generalizing t with
  | nil => rfl
  | cons c cs ih =>
      have step : addCellAt l data t c = addCellAt l' data' t c := by
        rw [addCellAt, addCellAt, same c List.mem_cons_self]
      rw [List.foldlM_cons, List.foldlM_cons, step]
      exact congrArg _
        (funext fun t => ih (fun c' member => same c' (List.mem_cons_of_mem c member)) t)

namespace AggregateTree

variable {tree tree' : AggregateTree α}

/-- Nothing but the selected cells is broken out. -/
theorem BreaksOut.congr (h : BreaksOut l data s groupBy tree)
    (same : ∀ c ∈ s.coordinates, l.cell? data c = l'.cell? data' c) :
    BreaksOut l' data' s groupBy tree := by
  induction groupBy generalizing s tree with
  | nil =>
      obtain ⟨total, direct, rfl⟩ := h
      exact ⟨total, (addCells_congr same Tally.zero).symm.trans direct, rfl⟩
  | cons d rest ih =>
      obtain ⟨child, below, rfl⟩ := h
      refine ⟨child, fun id listed => ih (below id listed) fun c selected => ?_, rfl⟩
      exact same c (Selection.mem_coordinates_of_narrowed listed selected)

theorem BreaksOut.unique (h : BreaksOut l data s groupBy tree)
    (h' : BreaksOut l data s groupBy tree') :
    tree = tree' :=
  Option.some.inj ((aggregate_eq_some_iff.mpr h).symm.trans (aggregate_eq_some_iff.mpr h'))

end AggregateTree

end Congruence

/-! ## Nothing selected -/

namespace Selection

theorem not_mem_of_nothing {s : Selection} {d : Dimension} (nothing : s.ids d = [])
    (c : Coordinate) :
    c ∉ s.coordinates := by
  intro selected
  have listed := mem_coordinates.mp selected d
  rw [nothing] at listed
  cases listed

end Selection

namespace AggregateTree

section Nothing

variable {α : Type} [Scalar α] {l : Layout} {data : Array α} {s : Selection}
  {groupBy : List Dimension} {tree : AggregateTree α}

/-- No cells add up to zeros, on the way up as well, if zeros do. -/
theorem BreaksOut.total_of_nothing (h : BreaksOut l data s groupBy tree)
    (nothing : ∀ c, c ∉ s.coordinates) (zeros : (0 : α) + 0 = 0) : tree.total = Tally.zero := by
  induction groupBy generalizing s tree with
  | nil =>
      obtain ⟨total, direct, rfl⟩ := h
      rw [sumCells, List.eq_nil_iff_forall_not_mem.mpr nothing] at direct
      exact (Option.some.inj direct).symm
  | cons d rest ih =>
      obtain ⟨child, below, rfl⟩ := h
      have zeroBelow : ∀ id ∈ s.ids d, (child id).total = Tally.zero := fun id listed =>
        ih (below id listed) fun c selected =>
          nothing c (Selection.mem_coordinates_of_narrowed listed selected)
      have still : (Tally.zero : Tally α).add Tally.zero = Tally.zero := by
        simp only [Tally.zero, Tally.add, zeros]
      calc (s.ids d).foldl (fun t id => t.add (child id).total) Tally.zero
        _ = (s.ids d).foldl (fun t _ => t.add Tally.zero) Tally.zero :=
          List.foldl_ext _ _ _ fun t id listed => by rw [zeroBelow id listed]
        _ = Tally.zero := List.foldl_fixed' (fun _ => still) _

/-- No path goes through a dimension without ids, so such a dimension stays without. -/
theorem BreaksOut.ids_of_nothing (h : BreaksOut l data s groupBy tree) {path : List Id}
    {node : AggregateTree α} (found : tree.descend? path = some node) {d : Dimension}
    (nothing : s.ids d = []) :
    (s.narrowedAlong groupBy path).ids d = [] := by
  induction path generalizing s groupBy tree with
  | nil => cases groupBy <;> exact nothing
  | cons id path ih =>
      cases groupBy with
      | nil => exact nothing
      | cons e rest =>
          obtain ⟨child, below, rfl⟩ := h
          obtain ⟨listed, further⟩ := descend?_branch_eq_some_iff.mp found
          refine ih (below id listed) further ?_
          have other : e ≠ d := by
            rintro rfl
            rw [nothing] at listed
            cases listed
          rw [Selection.ids_narrowed, if_neg other, nothing]

end Nothing

/-- Where a dimension has no ids selected there is one aggregate for all layouts and all data, be
    the other ids known or not: all of its nodes carry zeros, and a node that is broken out by a
    dimension without ids has no children. -/
theorem nothing_selected (s : Selection) (d : Dimension) (nothing : s.ids d = [])
    (groupBy : List Dimension) :
    ∃ tree : AggregateTree Float,
      (∀ (l : Layout) (data : Array Float),
        sumCells l data s = some Tally.zero ∧ aggregate l data s groupBy = some tree) ∧
      ∀ path node, tree.descend? path = some node →
        node.total = Tally.zero ∧ (∀ field, (node.total.get field).isNaN = false) ∧
        ∀ e, s.ids e = [] → groupBy[path.length]? = some e → node.children = [] := by
  have noCell := Selection.not_mem_of_nothing nothing
  -- Any layout and any data will do, as no cell is looked for.
  let empty : Layout := .ofIds 0 (.ofFn fun _ => [])
  have placed : s.Placed empty (#[] : Array Float) := fun c selected => absurd selected (noCell c)
  obtain ⟨tree, broken⟩ := exists_breaksOut placed groupBy
  refine ⟨tree, fun l data => ⟨?_, ?_⟩, fun path node found => ?_⟩
  · rw [sumCells, List.eq_nil_iff_forall_not_mem.mpr noCell]
    rfl
  · exact aggregate_eq_some_iff.mpr (broken.congr fun c selected => absurd selected (noCell c))
  · obtain ⟨-, inside, below⟩ := broken.descend found
    have zero : node.total = Tally.zero :=
      below.total_of_nothing (fun c selected => noCell c (inside selected)) rfl
    refine ⟨zero, fun field => ?_, fun e empty grouped => ?_⟩
    · rw [zero]
      cases field <;> rfl
    · have further := broken.ids_of_nothing found empty
      obtain ⟨inside, rfl⟩ := List.getElem?_eq_some_iff.mp grouped
      rw [List.drop_eq_getElem_cons inside] at below
      obtain ⟨child, -, rfl⟩ := below
      rw [further]
      rfl

/-- A version that no layout has to know, a region listed twice and two races, but no league. -/
theorem nothing_selected_no_league :
    let s : Selection := ⟨⟨[77], [1, 1], [], [0, 9]⟩⟩
    s.ids .league = [] ∧ ∃ tree : AggregateTree Float,
      (∀ (l : Layout) (data : Array Float),
        sumCells l data s = some Tally.zero ∧
        aggregate l data s [.race, .league, .region] = some tree) ∧
      ∀ path node, tree.descend? path = some node →
        node.total = Tally.zero ∧ (∀ field, (node.total.get field).isNaN = false) ∧
        ∀ e, s.ids e = [] → [Dimension.race, .league, .region][path.length]? = some e →
          node.children = [] := by
  intro s
  exact ⟨rfl, nothing_selected s .league rfl [.race, .league, .region]⟩

end AggregateTree

/-! ## One cell changed -/

namespace Layout

/-- Every slot is one of those counted and belongs to one id of its dimension. -/
structure OneToOne (l : Layout) : Prop where
  slots : ∀ d id slot, l.index? d id = some slot → slot < l.count d
  single : ∀ d id other slot, l.index? d id = some slot → l.index? d other = some slot → id = other

/-- Two snapshots have the length that a layout asks for, and the same numbers outside of one
    cell. -/
structure DifferAt {α : Type} (l : Layout) (c : Coordinate) (t t' : Snapshot α) : Prop where
  valid : l.validate t = .ok ()
  valid' : l.validate t' = .ok ()
  outside : ∀ i, ¬ l.Occupies c i → t.data[i]? = t'.data[i]?

variable {l : Layout} {c c' : Coordinate} {n : Nat}

theorem exists_slots_of_number (number : l.number? c = some n) : ∃ slots : ByDimension Nat,
    (∀ d, l.index? d (c.get d) = some (slots.get d)) ∧ l.cellNumber slots = n := by
  obtain ⟨slots, placed, same⟩ := Option.map_eq_some_iff.mp number
  refine ⟨slots, ?_, same⟩
  simp only [slots?, ByDimension.ofFnM?, Option.bind_eq_bind, Option.bind_eq_some_iff,
    Option.pure_def, Option.some.injEq] at placed
  obtain ⟨v, version, r, region, g, league, a, race, rfl⟩ := placed
  intro d
  cases d <;> assumption

theorem OneToOne.number_lt (h : l.OneToOne) (number : l.number? c = some n) : n < l.cellCount := by
  obtain ⟨slots, found, rfl⟩ := exists_slots_of_number number
  exact cellNumber_lt fun d => h.slots d _ _ (found d)

theorem OneToOne.number?_inj (h : l.OneToOne) (number : l.number? c = some n)
    (number' : l.number? c' = some n) : c = c' := by
  obtain ⟨slots, found, same⟩ := exists_slots_of_number number
  obtain ⟨slots', found', same'⟩ := exists_slots_of_number number'
  obtain rfl := cellNumber_inj (fun d => h.slots d _ _ (found d))
    (fun d => h.slots d _ _ (found' d))
    (same.trans same'.symm)
  exact ByDimension.ext_get fun d => h.single d _ _ _ (found d) (found' d)

/-- Positions of one cell are not those of another. -/
theorem OneToOne.eq_of_occupies (h : l.OneToOne) (fits : l.extent < Word.limit) {i : Nat}
    (one : l.Occupies c i) (other : l.Occupies c' i) : c = c' := by
  have number {c : Coordinate} (here : l.Occupies c i) :
      ∃ n, l.number? c = some n ∧ i / l.cellSize = n := by
    obtain ⟨start, offset, begins, stops⟩ := id here
    obtain ⟨slots, placed, -⟩ := Option.bind_eq_some_iff.mp offset
    have number : l.number? c = some (l.cellNumber slots) := by
      rw [number?, placed, Option.map_some]
    exact ⟨_, number, (occupies_iff fits (by omega) number (h.number_lt number) i).mp here⟩
  obtain ⟨n, numberOne, rfl⟩ := number one
  obtain ⟨n, numberOther, rfl⟩ := number other
  exact h.number?_inj numberOne numberOther

theorem exists_number_of_known (known : ∀ d, l.contains d (c.get d) = true) :
    ∃ n, l.number? c = some n := by
  obtain ⟨slots, placed, -⟩ := exists_slots known
  exact ⟨l.cellNumber slots, by rw [number?, placed, Option.map_some]⟩

variable {α : Type} {t t' : Snapshot α}

/-- Every other cell is decoded to the same numbers. -/
theorem OneToOne.cell?_congr (h : l.OneToOne) (sized : 0 < l.cellSize) (differ : l.DifferAt c t t')
    (other : c' ≠ c) : l.cell? t.data c' = l.cell? t'.data c' := by
  have length := validate_eq_ok_iff.mp differ.valid
  have length' := validate_eq_ok_iff.mp differ.valid'
  have fits := (dataLength?_eq_some length).2
  have counted := cellCount_lt_of_fits sized fits
  cases placed : l.slots? c' with
  | none => simp only [cell?, offset?, placed, Option.bind_eq_bind, Option.bind_none]
  | some slots =>
      have number : l.number? c' = some (l.cellNumber slots) := by
        rw [number?, placed, Option.map_some]
      have below := h.number_lt number
      obtain ⟨inside, decoded⟩ := cell?_of_number counted length number below
      rw [decoded, (cell?_of_number counted length' number below).2]
      refine congrArg some (List.ext_getElem? fun k => ?_)
      rw [Array.getElem?_toList, Array.getElem?_toList, Array.getElem?_extract,
        Array.getElem?_extract, Option.some.inj (length.symm.trans length')]
      split
      · next inCell =>
          have here : l.Occupies c' (l.cellSize * l.cellNumber slots + k) :=
            ⟨_, offset?_of_number fits counted number below, Nat.le_add_right _ _, by omega⟩
          exact differ.outside _ fun there => other (h.eq_of_occupies fits here there)
      · rfl

/-- Where cells have no numbers, no snapshot has any. -/
theorem DifferAt.data_eq (differ : l.DifferAt c t t') (none : l.cellSize = 0) :
    t.data = t'.data := by
  have empty {t : Snapshot α} (valid : l.validate t = .ok ()) : t.data = #[] := by
    have length := (dataLength?_eq_some (validate_eq_ok_iff.mp valid)).1
    rw [extent, none, Nat.zero_mul] at length
    exact Array.eq_empty_of_size_eq_zero length
  rw [empty differ.valid, empty differ.valid']

/-- Known cells have their numbers in a snapshot of the right length. -/
theorem OneToOne.placed (h : l.OneToOne) (counted : l.cellCount < Word.limit)
    (valid : l.validate t = .ok ()) {s : Selection}
    (known : ∀ d, ∀ id ∈ s.ids d, l.contains d id = true) : s.Placed l t.data := by
  intro c selected
  obtain ⟨n, number⟩ :=
    exists_number_of_known fun d => known d _ (Selection.mem_coordinates.mp selected d)
  rw [(cell?_of_number counted (validate_eq_ok_iff.mp valid) number (h.number_lt number)).2]
  rfl

/-- Whether a slot belongs to one id is seen from the entries of the indices. -/
theorem oneToOne_of_entries (slots : ∀ d, ∀ e ∈ (l.axes.get d).indices.entries, e.2 < l.count d)
    (single : ∀ d, ((l.axes.get d).indices.entries.map (·.2)).Nodup) : l.OneToOne := by
  refine ⟨slots_of_entries slots, ?_⟩
  intro d id other slot found found'
  have same := List.inj_on_of_nodup_map (single d) (Keyed.mem_of_find found)
    (Keyed.mem_of_find found') rfl
  exact congrArg Prod.fst same

end Layout

/-! ## How often a cell is listed -/

namespace Selection

/-- How often a selection lists a cell: as often as its four lists together name the four ids. -/
def times (s : Selection) (c : Coordinate) : Nat :=
  (s.ids .version).count c.version * (s.ids .region).count c.region * (s.ids .league).count c.league
    * (s.ids .race).count c.race

theorem not_mem_narrowed (s : Selection) {d : Dimension} {id : Id} {c : Coordinate}
    (other : id ≠ c.get d) :
    c ∉ (s.narrowed d id).coordinates := by
  intro selected
  have named := mem_coordinates.mp selected d
  rw [ids_narrowed, if_pos rfl] at named
  exact other (List.mem_singleton.mp named).symm

theorem count_narrowed (s : Selection) (d : Dimension) (c : Coordinate) :
    s.coordinates.count c =
      (s.ids d).count (c.get d) * (s.narrowed d (c.get d)).coordinates.count c := by
  have elsewhere (id : Id) (other : id ≠ c.get d) : (s.narrowed d id).coordinates.count c = 0 :=
    List.count_eq_zero.mpr (s.not_mem_narrowed other)
  rw [(s.coordinates_perm_narrowed d).count_eq c, List.count_flatMap]
  induction s.ids d with
  | nil => simp
  | cons id ids ih =>
      rw [List.map_cons, List.sum_cons, ih, Function.comp_apply]
      by_cases same : id = c.get d
      · rw [same, List.count_cons_self, Nat.succ_mul, Nat.add_comm]
      · rw [elsewhere id same, List.count_cons_of_ne same, Nat.zero_add]

theorem count_coordinates (s : Selection) (c : Coordinate) : s.coordinates.count c = s.times c := by
  let alone := (((s.narrowed .version c.version).narrowed .region c.region).narrowed .league
    c.league).narrowed .race c.race
  have single : alone.coordinates = [c] := rfl
  calc s.coordinates.count c
    _ = (s.ids .version).count c.version * ((s.ids .region).count c.region *
          ((s.ids .league).count c.league *
            ((s.ids .race).count c.race * alone.coordinates.count c))) := by
        rw [s.count_narrowed .version, count_narrowed _ .region, count_narrowed _ .league,
          count_narrowed _ .race]
        rfl
    _ = s.times c := by
        rw [single, List.count_singleton_self, Nat.mul_one, times, Nat.mul_assoc, Nat.mul_assoc]

end Selection

/-! ## Sums that change -/

theorem Tally.get_sum (ts : List (Tally Rat)) (field : Field) :
    ts.sum.get field = (ts.map (·.get field)).sum := by
  induction ts with
  | nil => cases field <;> rfl
  | cons t ts ih =>
      rw [List.sum_cons, List.map_cons, List.sum_cons, ← ih]
      cases field <;> rfl

theorem exactSum_sub {l : Layout} {data data' : Array Rat} {c : Coordinate}
    (same : ∀ c' ≠ c, l.cell? data c' = l.cell? data' c') (s : Selection) (field : Field) :
    (exactSum l data' s).get field - (exactSum l data s).get field =
      s.times c * ((cellTally l data' c).get field - (cellTally l data c).get field) := by
  let before (c' : Coordinate) : Rat := (cellTally l data c').get field
  let after (c' : Coordinate) : Rat := (cellTally l data' c').get field
  have changed : s.coordinates.map after =
      s.coordinates.map fun c' => if c' = c then after c' else before c' := by
    refine List.map_congr_left fun c' _ => ?_
    split
    · rfl
    · next other => simp only [before, after, cellTally, same c' other]
  have sums := List.sum_map_ite_eq s.coordinates after before c
  rw [← changed, s.count_coordinates, nsmul_eq_mul] at sums
  rw [exactSum, exactSum, Tally.get_sum, Tally.get_sum, List.map_map, List.map_map]
  exact sub_eq_of_eq_add sums

/-! ## Nodes that change -/

/-- The ids that a path names are those of a cell. -/
def OnPath (c : Coordinate) (groupBy : List Dimension) (path : List Id) : Prop :=
  ∀ x ∈ path.zip groupBy, x.1 = c.get x.2

namespace AggregateTree

section Nodes

variable {α : Type} [Scalar α] {l : Layout} {data data' : Array α} {s : Selection}
  {groupBy : List Dimension} {tree tree' : AggregateTree α} {c : Coordinate}

/-- Aggregates of data that differ in one cell are the same where the cell is not selected. -/
theorem BreaksOut.eq_of_unselected (h : BreaksOut l data s groupBy tree)
    (h' : BreaksOut l data' s groupBy tree') (same : ∀ c' ≠ c, l.cell? data c' = l.cell? data' c')
    (unselected : c ∉ s.coordinates) : tree = tree' :=
  (h.congr fun c' selected => same c' fun here => unselected (here ▸ selected)).unique h'

/-- Nor can a node tell to which no path of the cell leads. -/
theorem BreaksOut.descend?_eq_of_off (h : BreaksOut l data s groupBy tree)
    (h' : BreaksOut l data' s groupBy tree') (same : ∀ c' ≠ c, l.cell? data c' = l.cell? data' c')
    {path : List Id} (off : ¬ OnPath c groupBy path) :
    tree.descend? path = tree'.descend? path := by
  induction path generalizing s groupBy tree tree' with
  | nil => exact absurd (by simp [OnPath]) off
  | cons id path ih =>
      cases groupBy with
      | nil => exact absurd (by simp [OnPath]) off
      | cons d rest =>
          obtain ⟨child, below, rfl⟩ := h
          obtain ⟨child', below', rfl⟩ := h'
          rw [descend?_branch, descend?_branch]
          by_cases listed : id ∈ s.ids d
          · rw [if_pos listed, if_pos listed]
            by_cases here : id = c.get d
            · refine ih (below id listed) (below' id listed) fun on => off ?_
              rw [OnPath, List.zip_cons_cons]
              exact List.forall_mem_cons.mpr ⟨here, on⟩
            · rw [(below id listed).eq_of_unselected (below' id listed) same
                (s.not_mem_narrowed here)]
          · rw [if_neg listed, if_neg listed]

/-- Over the same lists, whatever the data, the same paths lead to nodes. -/
theorem BreaksOut.exists_node (h : BreaksOut l data s groupBy tree)
    (h' : BreaksOut l data' s groupBy tree') {path : List Id} {node : AggregateTree α}
    (found : tree.descend? path = some node) :
    ∃ node', tree'.descend? path = some node' := by
  induction path generalizing s groupBy tree tree' with
  | nil => exact ⟨tree', rfl⟩
  | cons id path ih =>
      cases groupBy with
      | nil =>
          obtain ⟨total, -, rfl⟩ := h
          simp at found
      | cons d rest =>
          obtain ⟨child, below, rfl⟩ := h
          obtain ⟨child', below', rfl⟩ := h'
          obtain ⟨listed, further⟩ := descend?_branch_eq_some_iff.mp found
          obtain ⟨node', further'⟩ := ih (below id listed) (below' id listed) further
          exact ⟨node', descend?_branch_eq_some_iff.mpr ⟨listed, further'⟩⟩

end Nodes

section Exact

variable {l : Layout} {data data' : Array Rat} {s : Selection} {groupBy : List Dimension}
  {tree tree' : AggregateTree Rat} {c : Coordinate} {path : List Id} {node : AggregateTree Rat}

theorem BreaksOut.total_of_node (h : BreaksOut l data s groupBy tree)
    (found : tree.descend? path = some node) :
    node.total = exactSum l data (s.narrowedAlong groupBy path) := by
  obtain ⟨-, inside, below⟩ := h.descend found
  exact below.total_eq fun c selected => h.placed c (inside selected)

/-- Over exact numbers a node changes by the change of the cell, as often as the cell is left at the
    node. -/
theorem BreaksOut.exists_changed (h : BreaksOut l data s groupBy tree)
    (h' : BreaksOut l data' s groupBy tree') (same : ∀ c' ≠ c, l.cell? data c' = l.cell? data' c')
    (found : tree.descend? path = some node) :
    ∃ node', tree'.descend? path = some node' ∧ ∀ field,
      node'.total.get field - node.total.get field = (s.narrowedAlong groupBy path).times c *
        ((cellTally l data' c).get field - (cellTally l data c).get field) := by
  obtain ⟨node', found'⟩ := h.exists_node h' found
  refine ⟨node', found', fun field => ?_⟩
  rw [h.total_of_node found, h'.total_of_node found']
  exact exactSum_sub same _ field

end Exact

/-- Both snapshots can be aggregated, and they agree on all other cells. -/
theorem exists_breaksOut_both {α : Type} [Scalar α] {l : Layout} {t t' : Snapshot α}
    {c : Coordinate} {s : Selection} (oneToOne : l.OneToOne) (sized : 0 < l.cellSize)
    (differ : l.DifferAt c t t') (known : ∀ d, ∀ id ∈ s.ids d, l.contains d id = true)
    (groupBy : List Dimension) :
    (∀ c' ≠ c, l.cell? t.data c' = l.cell? t'.data c') ∧
    ∃ tree tree', BreaksOut l t.data s groupBy tree ∧ BreaksOut l t'.data s groupBy tree' := by
  have fits := (Layout.dataLength?_eq_some (Layout.validate_eq_ok_iff.mp differ.valid)).2
  have counted := Layout.cellCount_lt_of_fits sized fits
  obtain ⟨tree, broken⟩ := exists_breaksOut (oneToOne.placed counted differ.valid known) groupBy
  obtain ⟨tree', broken'⟩ := exists_breaksOut (oneToOne.placed counted differ.valid' known) groupBy
  exact ⟨fun c' other => oneToOne.cell?_congr sized differ other, tree, tree', broken, broken'⟩

/-- A valid snapshot is aggregated by known ids if the cells can be counted, as they can where they
    have numbers. -/
theorem aggregate_isSome_of_known {α : Type} [Scalar α] {l : Layout} (oneToOne : l.OneToOne)
    (counted : 0 < l.cellSize ∨ l.cellCount < Word.limit) {t : Snapshot α}
    (valid : l.validate t = .ok ()) {s : Selection}
    (known : ∀ d, ∀ id ∈ s.ids d, l.contains d id = true) (groupBy : List Dimension) :
    (aggregate l t.data s groupBy).isSome := by
  have counted : l.cellCount < Word.limit := counted.elim (fun sized =>
    Layout.cellCount_lt_of_fits sized
      (Layout.dataLength?_eq_some (Layout.validate_eq_ok_iff.mp valid)).2) id
  obtain ⟨tree, broken⟩ := exists_breaksOut (oneToOne.placed counted valid known) groupBy
  exact Option.isSome_of_eq_some (aggregate_eq_some_iff.mpr broken)

/-- Two snapshots that differ in one cell, over a layout in which slots are those of one id each,
    and any selection of known ids. The aggregates are the same to the last bit if the cell is not
    selected, and if it is, then wherever no path of the cell leads to. Over exact numbers a node
    changes by the change of the cell, as often as what is left of the selection there lists it.
    Both snapshots have aggregates, unless their cells have no numbers and are too many to be
    counted; then none has. -/
theorem cells_kept_apart (l : Layout) (oneToOne : l.OneToOne) :
    (∀ {α : Type} [Scalar α] (t t' : Snapshot α) (c : Coordinate) (s : Selection)
      (groupBy : List Dimension),
      l.DifferAt c t t' → (∀ d, ∀ id ∈ s.ids d, l.contains d id = true) →
      (0 < l.cellSize ∨ l.cellCount < Word.limit →
        (aggregate l t.data s groupBy).isSome ∧ (aggregate l t'.data s groupBy).isSome) ∧
      ((aggregate l t.data s groupBy).isSome = (aggregate l t'.data s groupBy).isSome) ∧
      ((¬ ∀ d, c.get d ∈ s.ids d) →
        aggregate l t.data s groupBy = aggregate l t'.data s groupBy) ∧
      ∀ path, ¬ OnPath c groupBy path →
        (aggregate l t.data s groupBy).bind (·.descend? path) =
          (aggregate l t'.data s groupBy).bind (·.descend? path)) ∧
    ∀ (t t' : Snapshot Rat) (c : Coordinate) (s : Selection) (groupBy : List Dimension),
      l.DifferAt c t t' → (∀ d, ∀ id ∈ s.ids d, l.contains d id = true) →
      ∀ tree tree', aggregate l t.data s groupBy = some tree →
        aggregate l t'.data s groupBy = some tree' →
        ∀ path node, tree.descend? path = some node →
          ∃ node', tree'.descend? path = some node' ∧ ∀ field,
            node'.total.get field - node.total.get field = (s.narrowedAlong groupBy path).times c *
              ((cellTally l t'.data c).get field - (cellTally l t.data c).get field) := by
  constructor
  · intro α _ t t' c s groupBy differ known
    refine ⟨fun counted => ⟨aggregate_isSome_of_known oneToOne counted differ.valid known groupBy,
      aggregate_isSome_of_known oneToOne counted differ.valid' known groupBy⟩, ?_⟩
    rcases Nat.eq_zero_or_pos l.cellSize with none | sized
    · rw [differ.data_eq none]
      exact ⟨rfl, fun _ => rfl, fun _ _ => rfl⟩
    · obtain ⟨same, tree, tree', broken, broken'⟩ :=
        exists_breaksOut_both oneToOne sized differ known groupBy
      rw [aggregate_eq_some_iff.mpr broken, aggregate_eq_some_iff.mpr broken']
      refine ⟨rfl, fun unselected => ?_, fun path off => broken.descend?_eq_of_off broken' same off⟩
      rw [broken.eq_of_unselected broken' same fun selected =>
        unselected (Selection.mem_coordinates.mp selected)]
  · intro t t' c s groupBy differ known tree tree' aggregated aggregated' path node found
    rcases Nat.eq_zero_or_pos l.cellSize with none | sized
    · rw [differ.data_eq none] at aggregated ⊢
      cases aggregated.symm.trans aggregated'
      exact ⟨node, found, fun field => by rw [sub_self, sub_self, mul_zero]⟩
    · exact (aggregate_eq_some_iff.mp aggregated).exists_changed
        (aggregate_eq_some_iff.mp aggregated')
        (fun c' other => oneToOne.cell?_congr sized differ other) found

/-- Two regions with their slots in the other order. Of the doubles the cell of one region is
    changed and the other region selected; of the rational numbers it is changed by four and listed
    twice. -/
theorem cells_kept_apart_two_regions :
    let l : Layout :=
      { cellSize := 2
        statedCells := 2
        axes := ⟨⟨1, [0], ⟨[(0, 0)]⟩⟩, ⟨2, [3, 5], ⟨[(3, 1), (5, 0)]⟩⟩, ⟨1, [0], ⟨[(0, 0)]⟩⟩,
          ⟨1, [0], ⟨[(0, 0)]⟩⟩⟩ }
    let c : Coordinate := ⟨0, 3, 0, 0⟩
    let doubles : Snapshot Float := ⟨1, 201, 28, 0, 1, 0, #[0.1, 0.2, 0.3, 0.4]⟩
    let doubles' : Snapshot Float := ⟨2, 201, 28, 0, 1, 0, #[0.1, 0.2, 0.7, 0.4]⟩
    let rationals : Snapshot Rat := ⟨1, 201, 28, 0, 1, 0, #[1, 2, 3, 4]⟩
    let rationals' : Snapshot Rat := ⟨2, 201, 28, 0, 1, 0, #[1, 2, 7, 4]⟩
    let other : Selection := ⟨⟨[0], [5], [0], [0]⟩⟩
    let twice : Selection := ⟨⟨[0], [3, 5, 3], [0], [0]⟩⟩
    l.OneToOne ∧ l.DifferAt c doubles doubles' ∧ l.DifferAt c rationals rationals' ∧
      (∃ tree, aggregate l doubles.data other [.region] = some tree ∧
        aggregate l doubles'.data other [.region] = some tree) ∧
      ∃ tree tree', aggregate l rationals.data twice [.region] = some tree ∧
        aggregate l rationals'.data twice [.region] = some tree' ∧
        tree.total.count = 7 ∧ tree'.total.count = 15 ∧
        tree'.total.count - tree.total.count = 2 * 4 ∧
        ∀ path, ¬ OnPath c [.region] path → tree.descend? path = tree'.descend? path := by
  intro l c doubles doubles' rationals rationals' other twice
  have oneToOne : l.OneToOne :=
    Layout.oneToOne_of_entries (fun d => by cases d <;> decide) (fun d => by cases d <;> decide)
  have sized : 0 < l.cellSize := by decide
  have outside {α : Type} {x y z w w' : α} :
      ∀ i, ¬ l.Occupies c i → #[x, y, w, z][i]? = #[x, y, w', z][i]? := by
    intro i apart
    rcases i with - | - | - | i
    · rfl
    · rfl
    · exact absurd ⟨2, rfl, by decide, by decide⟩ apart
    · cases i <;> rfl
  have differ : l.DifferAt c doubles doubles' := ⟨by decide, by decide, outside⟩
  have differ' : l.DifferAt c rationals rationals' := ⟨by decide, by decide, outside⟩
  have known : ∀ d, ∀ id ∈ other.ids d, l.contains d id = true :=
    fun d => List.all_eq_true.mp (by cases d <;> decide)
  have known' : ∀ d, ∀ id ∈ twice.ids d, l.contains d id = true :=
    fun d => List.all_eq_true.mp (by cases d <;> decide)
  obtain ⟨rounded, exact⟩ := cells_kept_apart l oneToOne
  obtain ⟨there, -, unselected, -⟩ := rounded doubles doubles' c other [.region] differ known
  obtain ⟨tree, one⟩ := Option.isSome_iff_exists.mp (there (.inl sized)).1
  obtain ⟨there', -, -, off⟩ := rounded rationals rationals' c twice [.region] differ' known'
  obtain ⟨a, left⟩ := Option.isSome_iff_exists.mp (there' (.inl sized)).1
  obtain ⟨b, right⟩ := Option.isSome_iff_exists.mp (there' (.inl sized)).2
  refine ⟨oneToOne, differ, differ', ⟨tree, one, ?_⟩, a, b, left, right, ?_, ?_, ?_, ?_⟩
  · rw [← unselected fun listed => absurd (listed .region) (by decide)]
    exact one
  · cases left
    decide +kernel
  · cases right
    decide +kernel
  · obtain ⟨root, here, changed⟩ :=
      exact rationals rationals' c twice [.region] differ' known' a b left right [] a rfl
    cases here
    refine (changed .count).trans ?_
    decide +kernel
  · intro path apart
    have same := off path apart
    rwa [left, right] at same

end AggregateTree

end LadderAtlas
