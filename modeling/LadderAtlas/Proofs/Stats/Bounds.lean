import LadderAtlas.Number.Exact
import LadderAtlas.Proofs.Number.Words
import LadderAtlas.Proofs.Stats.Breakdown
import LadderAtlas.Stats.Mode

/-! # Decoding stays in bounds

Places of cells are computed without looking at the array, so that they lie in it has to follow from
what was checked before: the layout knows its own ids, the array has the length that the layout asks
for, and the filter lists known ids. Then every cell that is summed has its place, with no address
cut off on the way. A build that stops where a result is no word needs the number of all cells to be
one, too: the number of a cell is computed before it is multiplied by the size, which may be zero.
-/

namespace LadderAtlas

theorem Keyed.mem_of_find {κ β : Type} [DecidableEq κ] {key : κ} {value : β}
    {entries : List (κ × β)} (found : Keyed.find key entries = some value) :
    (key, value) ∈ entries := by
  induction entries with
  | nil => cases found
  | cons e entries ih =>
      rw [Keyed.find] at found
      split at found
      · next same =>
          cases found
          exact same ▸ List.mem_cons_self
      · exact List.mem_cons_of_mem e (ih found)

namespace Layout

/-! ## Exact places -/

/-- How many cells there are slots for. -/
def cellCount (l : Layout) : Nat :=
  l.count .version * l.count .region * l.count .league * l.count .race

/-- How many numbers the cells have together, be that a word or not. -/
def extent (l : Layout) : Nat := l.cellSize * l.cellCount

/-- The number of a cell, one digit after the other, be it a word or not. -/
def cellNumber (l : Layout) (slots : ByDimension Nat) : Nat :=
  ((slots.version * l.count .region + slots.region) * l.count .league + slots.league)
    * l.count .race + slots.race

/-- Every listed id has a slot, every slot is one of those counted, and all cells have addresses. -/
structure Sound [Build] (l : Layout) : Prop where
  listed : ∀ d, ∀ id ∈ l.ids d, l.contains d id = true
  slots : ∀ d id slot, l.index? d id = some slot → slot < l.count d
  fits : l.extent < Word.limit
  /-- It follows from the extent unless a cell has no numbers. -/
  counted : Build.overflow = .stops → l.cellCount < Word.limit

/-- A digit appended to a number in bounds gives a number in bounds. -/
private theorem digit_lt {a b m n : Nat} (ha : a < m) (hb : b < n) : a * n + b < m * n :=
  calc
    a * n + b < a * n + n := Nat.add_lt_add_left hb _
    _ = (a + 1) * n := (Nat.succ_mul a n).symm
    _ ≤ m * n := Nat.mul_le_mul_right n ha

theorem cellNumber_lt {l : Layout} {slots : ByDimension Nat} (h : ∀ d, slots.get d < l.count d) :
    l.cellNumber slots < l.cellCount :=
  digit_lt (digit_lt (digit_lt (h .version) (h .region)) (h .league)) (h .race)

theorem cell_end_le_extent {l : Layout} {n : Nat} (below : n < l.cellCount) :
    l.cellSize * n + l.cellSize ≤ l.extent :=
  calc
    l.cellSize * n + l.cellSize = l.cellSize * (n + 1) := (Nat.mul_succ _ _).symm
    _ ≤ l.extent := Nat.mul_le_mul_left _ below

/-- There are cells only where every dimension has slots. -/
theorem count_pos_of_cellCount_pos {l : Layout} (cells : 0 < l.cellCount) (d : Dimension) :
    0 < l.count d := by
  refine Nat.pos_of_ne_zero fun none => ?_
  cases d <;> simp [cellCount, none] at cells

/-- The number of a cell as it is summed up. -/
theorem cellNumber_eq_sum (l : Layout) (slots : ByDimension Nat) :
    l.cellNumber slots = slots.version * l.count .region * l.count .league * l.count .race +
      slots.region * l.count .league * l.count .race + slots.league * l.count .race +
        slots.race := by
  simp only [cellNumber, Nat.add_mul]

theorem cellCount_lt_of_fits {l : Layout} (sized : 0 < l.cellSize) (fits : l.extent < Word.limit) :
    l.cellCount < Word.limit :=
  (Nat.le_mul_of_pos_left _ sized).trans_lt fits

/-- Whether all slots are counted is seen from the entries of the indices. -/
theorem slots_of_entries {l : Layout}
    (slots : ∀ d, ∀ e ∈ (l.axes.get d).indices.entries, e.2 < l.count d) :
    ∀ d id slot, l.index? d id = some slot → slot < l.count d :=
  fun d _ _ found => slots d _ (Keyed.mem_of_find found)

/-- A cell has slots where every one of its ids is known. -/
theorem exists_slots {l : Layout} {c : Coordinate} (known : ∀ d, l.contains d (c.get d) = true) :
    ∃ slots, l.slots? c = some slots ∧ ∀ d, l.index? d (c.get d) = some (slots.get d) := by
  have slotOf (d : Dimension) : ∃ slot, l.index? d (c.get d) = some slot :=
    Option.isSome_iff_exists.mp (known d)
  choose slot found using slotOf
  refine ⟨.ofFn slot, ?_, ?_⟩
  · simp [slots?, ByDimension.ofFnM?, ByDimension.ofFn, found]
  · intro d
    rw [ByDimension.get_ofFn, found]

/-! ## Places in words -/

section Words

variable [Build] {l : Layout} {slots : ByDimension Nat} {n : Nat}

theorem modEq_of_dataLength? (had : l.dataLength? = some n) : n ≡ l.extent [MOD Word.limit] := by
  have exact := Word.modEq_of_product? had
  rwa [extent, cellCount, ← Nat.mul_assoc, ← Nat.mul_assoc, ← Nat.mul_assoc]

theorem eq_extent_of_fits (had : l.dataLength? = some n) (fits : l.extent < Word.limit) :
    n = l.extent :=
  Nat.ModEq.eq_of_lt_of_lt (modEq_of_dataLength? had) (Word.lt_of_product? had) fits

/-- What a release makes of the number of a cell. -/
theorem modEq_of_cellNumber? (had : l.cellNumber? slots = some n) :
    n ≡ l.cellNumber slots [MOD Word.limit] := by
  simp only [cellNumber?, Option.bind_eq_bind, Option.bind_eq_some_iff] at had
  obtain ⟨versions, hadVersions, regions, hadRegions, leagues, hadLeagues, summed⟩ := had
  rw [cellNumber_eq_sum]
  exact (Word.modEq_of_sum? summed).trans
    ((((Word.modEq_of_product? hadVersions).add (Word.modEq_of_product? hadRegions)).add
      (Word.modEq_of_product? hadLeagues)).add_right _)

/-- On the way to the number of a cell no result is larger than the number itself. -/
theorem exists_cellNumber? (positive : ∀ d, 0 < l.count d)
    (small : Build.overflow = .stops → l.cellNumber slots < Word.limit) :
    ∃ n, l.cellNumber? slots = some n := by
  rw [cellNumber_eq_sum] at small
  obtain ⟨versions, hadVersions⟩ : ∃ p, Word.product? slots.version
      [l.count .region, l.count .league, l.count .race] = some p :=
    Word.exists_product? fun stops => ⟨by simp [positive], by have := small stops; simp; omega⟩
  obtain ⟨regions, hadRegions⟩ : ∃ p, Word.product? slots.region
      [l.count .league, l.count .race] = some p :=
    Word.exists_product? fun stops => ⟨by simp [positive], by have := small stops; simp; omega⟩
  obtain ⟨leagues, hadLeagues⟩ : ∃ p, Word.product? slots.league [l.count .race] = some p :=
    Word.exists_product? fun stops => ⟨by simp [positive], by have := small stops; simp; omega⟩
  obtain ⟨n, summed⟩ : ∃ n, Word.sum? versions [regions, leagues, slots.race] = some n := by
    refine Word.exists_sum? fun stops => ?_
    rw [Word.product?_eq_of_checked stops hadVersions, Word.product?_eq_of_checked stops hadRegions,
      Word.product?_eq_of_checked stops hadLeagues]
    exact small stops
  exact ⟨n, by simp only [cellNumber?, hadVersions, hadRegions, hadLeagues, summed,
    Option.bind_eq_bind, Option.bind_some]⟩

theorem eq_cellNumber (small : l.cellNumber slots < Word.limit)
    (had : l.cellNumber? slots = some n) :
    n = l.cellNumber slots := by
  have exact := modEq_of_cellNumber? had
  simp only [cellNumber?, Option.bind_eq_bind, Option.bind_eq_some_iff] at had
  obtain ⟨versions, -, regions, -, leagues, -, summed⟩ := had
  exact exact.eq_of_lt_of_lt (Word.lt_of_sum? summed) small

/-- The place of a cell that is counted, with nothing cut off. -/
theorem offset?_of_slots {c : Coordinate} (placed : l.slots? c = some slots)
    (below : l.cellNumber slots < l.cellCount) (fits : l.extent < Word.limit)
    (counted : Build.overflow = .stops → l.cellCount < Word.limit) :
    l.offset? c = some (l.cellSize * l.cellNumber slots) := by
  have small : l.cellSize * l.cellNumber slots < Word.limit :=
    (Nat.le_of_add_right_le (cell_end_le_extent below)).trans_lt fits
  have small' (stops : Build.overflow = .stops) : l.cellNumber slots < Word.limit :=
    below.trans (counted stops)
  obtain ⟨n, number⟩ :=
    exists_cellNumber? (count_pos_of_cellCount_pos (Nat.zero_lt_of_lt below)) small'
  obtain ⟨start, times⟩ : ∃ start, Word.product? l.cellSize [n] = some start := by
    rw [Word.product?_singleton]
    refine Word.exists_fit? fun stops => ?_
    rwa [eq_cellNumber (small' stops) number]
  have exact : start ≡ l.cellSize * l.cellNumber slots [MOD Word.limit] :=
    (Word.modEq_of_product? times).trans ((modEq_of_cellNumber? number).mul_left _)
  have same := exact.eq_of_lt_of_lt (Word.lt_of_product? times) small
  simp only [offset?, placed, number, times, same, Option.bind_eq_bind, Option.bind_some]

end Words

/-! ## Cells -/

section Cells

variable [Build] {α : Type} {l : Layout} {data : Array α} {c : Coordinate}

/-- A cell that ends inside of the data is the part of the data from its place on. -/
theorem cell?_of_offset {start : Nat} (offset : l.offset? c = some start)
    (inside : start + l.cellSize ≤ data.size) (addressed : data.size < Word.limit) :
    l.cell? data c = some (data.extract start (start + l.cellSize)).toList := by
  have stop : Word.sum? start [l.cellSize] = some (start + l.cellSize) := by
    rw [Word.sum?_singleton, Word.fit?_of_lt (inside.trans_lt addressed)]
  simp only [cell?, offset, stop, Option.bind_eq_bind, Option.bind_some]
  rw [if_pos ⟨Nat.le_add_right _ _, inside⟩]

/-- Where a cell is in an array of the right length: nothing is cut off its address, and all its
    numbers are there. -/
theorem Sound.decode (sound : l.Sound) (length : l.dataLength? = some data.size)
    (known : ∀ d, l.contains d (c.get d) = true) :
    ∃ start numbers, l.offset? c = some start ∧ start + l.cellSize ≤ data.size ∧
      l.cell? data c = some numbers ∧ numbers.length = l.cellSize := by
  obtain ⟨slots, placed, found⟩ := exists_slots known
  have below : l.cellNumber slots < l.cellCount :=
    cellNumber_lt fun d => sound.slots d _ _ (found d)
  have room : data.size = l.extent := eq_extent_of_fits length sound.fits
  have inside : l.cellSize * l.cellNumber slots + l.cellSize ≤ data.size :=
    room ▸ cell_end_le_extent below
  have offset := offset?_of_slots placed below sound.fits sound.counted
  refine ⟨_, _, offset, inside, cell?_of_offset offset inside (room ▸ sound.fits), ?_⟩
  rw [Array.length_toList, Array.size_extract]
  omega

end Cells

/-! ## Layouts from lists of ids -/

section OfIds

variable {l : Layout} {cellSize : Nat} {ids : ByDimension (List Id)} {d : Dimension}
  {id : Id} {slot : Nat}

/-- The axes are those of lists of ids, each id having its position for a slot. -/
def Indexes (l : Layout) (ids : ByDimension (List Id)) : Prop :=
  ∀ d, l.axes.get d = Axis.ofIds (ids.get d)

theorem indexes_ofIds (cellSize : Nat) : (ofIds cellSize ids).Indexes ids :=
  fun d => ByDimension.get_ofFn _ d

theorem indexes_of_ofIds? [Build] (built : ofIds? cellSize ids = some l) :
    l.cellSize = cellSize ∧ l.Indexes ids ∧
      ∃ cells, Word.product? ids.version.length
        [ids.region.length, ids.league.length, ids.race.length] = some cells := by
  obtain ⟨cells, stated, same⟩ := Option.bind_eq_some_iff.mp built
  cases same
  exact ⟨rfl, indexes_ofIds cellSize, cells, stated⟩

theorem Indexes.ids_eq (h : l.Indexes ids) (d : Dimension) : l.ids d = ids.get d := by
  rw [Layout.ids, h d, Axis.ofIds]

theorem Indexes.count_eq (h : l.Indexes ids) (d : Dimension) : l.count d = (ids.get d).length := by
  rw [Layout.count, h d, Axis.ofIds]

theorem Indexes.contains (h : l.Indexes ids) (listed : id ∈ ids.get d) :
    l.contains d id = true := by
  rw [Layout.contains, index?, h d, Axis.ofIds, Keyed.get?_ofList, Option.isSome_map,
    List.find?_isSome]
  obtain ⟨i, inside, rfl⟩ := List.getElem_of_mem listed
  refine ⟨(_, i), List.mem_reverse.mpr ?_, decide_eq_true rfl⟩
  exact List.mk_mem_zipIdx_iff_getElem?.mpr (List.getElem?_eq_getElem inside)

/-- The slot of an id is a position at which it is listed. -/
theorem Indexes.listed (h : l.Indexes ids) (found : l.index? d id = some slot) :
    (ids.get d)[slot]? = some id := by
  rw [index?, h d, Axis.ofIds, Keyed.get?_ofList, Option.map_eq_some_iff] at found
  obtain ⟨⟨id', slot'⟩, last, rfl⟩ := found
  obtain rfl : id' = id := by simpa using List.find?_some last
  exact List.mk_mem_zipIdx_iff_getElem?.mp (List.mem_reverse.mp (List.mem_of_find?_eq_some last))

/-- The layout of lists of ids knows what it lists, also where an id is repeated. -/
theorem Indexes.sound [Build] (h : l.Indexes ids) (fits : l.extent < Word.limit)
    (counted : Build.overflow = .stops → l.cellCount < Word.limit) : l.Sound := by
  refine ⟨fun d id listed => ?_, fun d id slot found => ?_, fits, counted⟩
  · exact h.contains (h.ids_eq d ▸ listed)
  · rw [h.count_eq d]
    exact (List.getElem?_eq_some_iff.mp (h.listed found)).1

/-- Lists of ids of which a layout could be made are not too long. -/
theorem cellCount_lt_of_ofIds? [Build] (stops : Build.overflow = .stops)
    (built : ofIds? cellSize ids = some l) : l.cellCount < Word.limit := by
  obtain ⟨-, indexes, cells, stated⟩ := indexes_of_ofIds? built
  have small : cells < Word.limit := Word.lt_of_product? stated
  rw [Word.product?_eq_of_checked stops stated] at small
  rw [cellCount, indexes.count_eq, indexes.count_eq, indexes.count_eq, indexes.count_eq]
  exact small

theorem sound_of_ofIds? [Build] (built : ofIds? cellSize ids = some l)
    (fits : l.extent < Word.limit) : l.Sound :=
  (indexes_of_ofIds? built).2.1.sound fits fun stops => cellCount_lt_of_ofIds? stops built

end OfIds

/-- A snapshot passes if the length of its data can be computed and is what was computed. -/
theorem validate_eq_ok_iff [Build] {α : Type} {l : Layout} {s : Snapshot α} :
    l.validate s = .ok () ↔ l.dataLength? = some s.data.size := by
  unfold validate
  split
  · next stops => simp [stops]
  · next length had =>
      rw [had, Option.some_inj]
      split
      · next same => simp [same]
      · next other => simpa using fun same => other same.symm

end Layout

/-! ## Filters -/

/-- A filter passes the check if every id that it lists is known. -/
theorem Filter.check_eq_ok_iff {f : Filter} {l : Layout} :
    f.check l = .ok () ↔ ∀ d ids, f.get? d = some ids → ∀ id ∈ ids, l.contains d id = true := by
  have unknown : f.check l = .ok () ↔ f.unknown? l = none := by
    unfold check
    split <;> simp_all
  have all (P : Dimension → Prop) : (∀ d ∈ Dimension.inOrder, P d) ↔ ∀ d, P d :=
    ⟨fun h d => h d (by cases d <;> decide), fun h d _ => h d⟩
  rw [unknown, unknown?, List.findSome?_eq_none_iff, all]
  refine forall_congr' fun d => ?_
  cases f.get? d with
  | none => simp
  | some ids => simp

/-- A checked filter selects known ids only, be they listed or filled in. -/
theorem Filter.contains_of_mem_resolve [Build] {f : Filter} {l : Layout} (sound : l.Sound)
    (checked : f.check l = .ok ()) {d : Dimension} {id : Id} (chosen : id ∈ (f.resolve l).ids d) :
    l.contains d id = true := by
  rw [resolve, Selection.ids, ByDimension.get_ofFn] at chosen
  cases listed : f.get? d with
  | some ids =>
      rw [listed] at chosen
      exact check_eq_ok_iff.mp checked d ids listed id chosen
  | none =>
      rw [listed] at chosen
      exact sound.listed d id chosen

namespace Stat

variable {α : Type} [Scalar α]

/-- Over a sound layout, a snapshot and a filter that were checked are summed and broken out without
    any cell missing: all that is ever selected are cells of the array, each with as many numbers as
    the layout says. This is so whatever the build does with results that are no words. The layouts
    of lists of ids are sound. -/
theorem decodes_in_bounds [Build] :
    (∀ cellSize ids l, Layout.ofIds? cellSize ids = some l → l.extent < Word.limit → l.Sound) ∧
    ∀ (s : Stat α) (f : Filter) (groupBy : List Dimension), s.layout.Sound →
      s.layout.validate s.snapshot = .ok () → f.check s.layout = .ok () →
      (∃ total, s.sum f = .ok total) ∧
      (∃ a, s.aggregate f groupBy = .ok a ∧ ∀ path node, a.root.descend? path = some node →
        (a.selection.narrowedAlong groupBy path).coordinates ⊆ (f.resolve s.layout).coordinates) ∧
      ∀ c ∈ (f.resolve s.layout).coordinates, ∃ start numbers,
        s.layout.offset? c = some start ∧ start + s.layout.cellSize ≤ s.snapshot.data.size ∧
        s.cell? c = some numbers ∧ numbers.length = s.layout.cellSize := by
  refine ⟨fun cellSize ids l built fits => Layout.sound_of_ofIds? built fits, ?_⟩
  intro s f groupBy sound valid checked
  have length := Layout.validate_eq_ok_iff.mp valid
  have decoded (c : Coordinate) (selected : c ∈ (f.resolve s.layout).coordinates) :=
    sound.decode length fun d =>
      Filter.contains_of_mem_resolve sound checked (Selection.mem_coordinates.mp selected d)
  have placed : (f.resolve s.layout).Placed s.layout s.snapshot.data := by
    intro c selected
    obtain ⟨start, numbers, -, -, there, -⟩ := decoded c selected
    exact Option.isSome_of_eq_some there
  obtain ⟨total, summed⟩ := Option.isSome_iff_exists.mp (sumCells_isSome_iff.mpr placed)
  obtain ⟨tree, broken⟩ := AggregateTree.exists_breaksOut placed groupBy
  refine ⟨⟨total, ?_⟩, ⟨⟨f.resolve s.layout, groupBy, tree⟩, ?_, ?_⟩, decoded⟩
  · simp only [sum, summed]
  · simp only [aggregate, aggregate_eq_some_iff.mpr broken]
  · intro path node found
    exact (broken.descend found).2.1

/-- Two slots for one repeated region, the filter listing a league twice. -/
theorem decodes_in_bounds_repeated :
    let s : Stat Rat := ⟨.ofIds 2 ⟨[0], [3, 3], [0, 5], [0]⟩,
      ⟨1, 201, 28, 0, 1, 0, #[1, 2, 3, 4, 5, 6, 7, 8]⟩⟩
    let f : Filter := Filter.empty.set .league [5, 5]
    Layout.ofIds? 2 ⟨[0], [3, 3], [0, 5], [0]⟩ = some s.layout ∧ s.layout.extent < Word.limit ∧
      s.layout.Sound ∧ s.layout.validate s.snapshot = .ok () ∧ f.check s.layout = .ok () ∧
      (∃ total, s.sum f = .ok total ∧ total.toList = [28, 32, 0, 0]) ∧
      (∃ a, s.aggregate f [.region] = .ok a ∧ ∀ path node, a.root.descend? path = some node →
        (a.selection.narrowedAlong [.region] path).coordinates ⊆
          (f.resolve s.layout).coordinates) ∧
      ∀ c ∈ (f.resolve s.layout).coordinates, ∃ start numbers,
        s.layout.offset? c = some start ∧ start + s.layout.cellSize ≤ s.snapshot.data.size ∧
        s.cell? c = some numbers ∧ numbers.length = s.layout.cellSize := by
  intro s f
  have built : Layout.ofIds? 2 ⟨[0], [3, 3], [0, 5], [0]⟩ = some s.layout := by decide
  have fits : s.layout.extent < Word.limit := by decide
  have valid : s.layout.validate s.snapshot = .ok () := by decide
  have checked : f.check s.layout = .ok () := by decide
  have sound := (decodes_in_bounds (α := Rat)).1 2 ⟨[0], [3, 3], [0, 5], [0]⟩ s.layout built fits
  obtain ⟨⟨total, summed⟩, broken, decoded⟩ :=
    (decodes_in_bounds (α := Rat)).2 s f [.region] sound valid checked
  refine ⟨built, fits, sound, valid, checked, ⟨total, summed, ?_⟩, broken, decoded⟩
  cases summed
  decide +kernel

/-- Cells without numbers fit however many there are, but their number, which is computed first,
    need not: the program stops at the first cell that is selected. -/
theorem sum_stops_without_numbers :
    let l : Layout :=
      { cellSize := 0
        statedCells := 0
        axes := ⟨⟨2, [1], ⟨[(1, 1)]⟩⟩, ⟨0x200000000, [0], ⟨[(0, 0)]⟩⟩,
          ⟨0x200000000, [0], ⟨[(0, 0)]⟩⟩, ⟨1, [0], ⟨[(0, 0)]⟩⟩⟩ }
    let s : Stat Float := ⟨l, ⟨1, 201, 28, 2, 1, 0, #[]⟩⟩
    (∀ d, ∀ id ∈ l.ids d, l.contains d id = true) ∧
      (∀ d id slot, l.index? d id = some slot → slot < l.count d) ∧
      l.extent < Word.limit ∧ l.validate s.snapshot = .ok () ∧ Filter.empty.check l = .ok () ∧
      ∃ e, s.sum .empty = .error e ∧ e.isPanic := by
  intro l s
  exact ⟨fun d => List.all_eq_true.mp (by cases d <;> decide),
    Layout.slots_of_entries fun d => by cases d <;> decide, by decide, by decide, by decide,
    .unplacedCell, by decide +kernel, rfl⟩

end Stat

end LadderAtlas
