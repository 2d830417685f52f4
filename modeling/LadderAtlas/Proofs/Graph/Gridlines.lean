import LadderAtlas.Graph.Axes
import LadderAtlas.Proofs.Graph.Labels
import LadderAtlas.Proofs.Number.Arithmetic

/-! # Labels of gridlines

The gridlines of an axis that begins at zero are tenths of its top apart. Wherever the precision of
the labels changes, one in the last place is worth a tenth of the top at most. So the labels are
rounded multiples of a step that is a unit at least, and rounding does not make two of them the
same.
-/

namespace LadderAtlas

/-! ## Units -/

namespace YAxis

/-- What one is worth in the last place of the labels of an axis that begins at zero. -/
def unit (kind : YAxis) (top : Rat) : Rat :=
  match kind with
  | .percent => if top < 1 then 0.01 else if top < 10 then 0.1 else 1
  | .int => if 10000 < top then 1000 else 1

/-- The precisions of labels, each with the tops that it is for and with its unit. -/
inductive Precision : YAxis → Rat → Rat → Prop where
  | hundredths {top : Rat} (below : top < 1) : Precision .percent top 0.01
  | tenths {top : Rat} (least : 1 ≤ top) (below : top < 10) : Precision .percent top 0.1
  | percents {top : Rat} (least : 10 ≤ top) : Precision .percent top 1
  | ones {top : Rat} (most : top ≤ 10000) : Precision .int top 1
  | thousands {top : Rat} (above : 10000 < top) : Precision .int top 1000

/-- The least top with labels that are told apart. -/
def leastTop : YAxis → Rat
  | .percent => 0.1
  | .int => 10

/-- How many units the gridlines are apart. -/
def step (kind : YAxis) (top : Rat) : Rat := top / 10 / kind.unit top

/-- A top that rounding does not cut off to 64 bits. Thousands are never cut off, and no double
    below 2 ^ 63 is so close to it that it would be. -/
def Kept (kind : YAxis) (top : Rat) : Prop :=
  kind = .int ∨ top ≤ 2 ^ 63 - 1 / 2 ∨ ∃ x : Float, x.isFinite = true ∧ Binary64.rational x = top

variable {kind : YAxis} {top : Rat}

theorem leastTop_pos : 0 < kind.leastTop := by
  cases kind <;> norm_num [leastTop]

theorem precision (kind : YAxis) (top : Rat) : Precision kind top (kind.unit top) := by
  cases kind with
  | percent =>
      unfold unit
      dsimp only
      split
      · next below => exact .hundredths below
      split
      · next least below => exact .tenths (not_lt.mp least) below
      · next least => exact .percents (not_lt.mp least)
  | int =>
      unfold unit
      dsimp only
      split
      · next above => exact .thousands above
      · next most => exact .ones (not_lt.mp most)

namespace Precision

variable {unit : Rat}

theorem unit_pos (p : Precision kind top unit) : 0 < unit := by
  cases p <;> norm_num

/-- A unit is a tenth of the top at most. -/
theorem ten_mul_le (p : Precision kind top unit) (low : kind.leastTop ≤ top) : 10 * unit ≤ top := by
  unfold leastTop at low
  cases p <;> linarith

/-- Up to the top there are ten thousand units at most, or as many as it is percents or
    thousands. -/
theorem le_mul (p : Precision kind top unit) {bound : Rat} (wide : 10000 ≤ bound)
    (percent : kind = .percent → top ≤ bound) (int : kind = .int → top / 1000 ≤ bound) :
    top ≤ bound * unit := by
  cases p with
  | hundredths | tenths | ones => linarith
  | percents => linarith [percent rfl]
  | thousands => linarith [int rfl]

end Precision

theorem unit_pos (kind : YAxis) (top : Rat) : 0 < kind.unit top := (precision kind top).unit_pos

theorem one_le_step (low : kind.leastTop ≤ top) : 1 ≤ kind.step top := by
  have tenth := (precision kind top).ten_mul_le low
  rw [step, one_le_div (unit_pos kind top)]
  linarith

theorem ten_mul_step_le {bound : Rat} (wide : 10000 ≤ bound)
    (percent : kind = .percent → top ≤ bound) (int : kind = .int → top / 1000 ≤ bound) :
    10 * kind.step top ≤ bound := by
  have units : 10 * kind.step top = top / kind.unit top := by
    rw [step]
    ring
  rw [units, div_le_iff₀ (unit_pos kind top)]
  exact (precision kind top).le_mul wide percent int

theorem ten_mul_step_lt (low : kind.leastTop ≤ top) (high : top < 2 ^ 63) :
    10 * kind.step top < 2 ^ 63 := by
  have positive : 0 < top := leastTop_pos.trans_le low
  have within : 10 * kind.step top ≤ max 10000 top :=
    ten_mul_step_le (le_max_left _ _) (fun _ => le_max_right _ _) fun _ =>
      le_max_of_le_right (by linarith)
  exact within.trans_lt (max_lt (by norm_num) high)

/-- The doubles next to 2 ^ 63 are 1024 apart. -/
theorem rational_le_of_lt {x : Float} (finite : x.isFinite = true)
    (high : Binary64.rational x < 2 ^ 63) :
    Binary64.rational x ≤ 2 ^ 63 - 1 / 2 := by
  rcases (Binary64.storable_rational finite).le_or_ge (m := 2 ^ 53 - 1) (e := 10)
    (.inl (by norm_num)) with low | up
  · exact low.trans (by norm_num)
  · exact absurd up (not_le.mpr (high.trans_eq (by norm_num)))

theorem ten_mul_step_le_of_kept (high : top < 2 ^ 63) (kept : kind.Kept top) :
    10 * kind.step top ≤ 2 ^ 63 - 1 / 2 := by
  refine ten_mul_step_le (by norm_num) (fun percent => ?_) fun _ => by linarith
  rcases kept with int | fits | ⟨x, finite, rfl⟩
  · cases percent.symm.trans int
  · exact fits
  · exact rational_le_of_lt finite high

end YAxis

/-! ## Labels of values -/

namespace Viewport

variable {v : Viewport Rat} {kind : YAxis}

theorem extent_of_zero (bottom : v.upward.start = 0) (positive : 0 < v.upward.finish) :
    v.upward.extent = v.upward.finish := by
  rw [Scale.extent, bottom, sub_zero]
  exact if_neg positive.not_gt

theorem largest_of_zero (bottom : v.upward.start = 0) (positive : 0 < v.upward.finish) :
    v.upward.largest = v.upward.finish := by
  have top : Scalar.abs v.upward.finish = v.upward.finish := if_neg positive.not_gt
  have zero : Scalar.abs (0 : Rat) = 0 := rfl
  rw [Scale.largest, bottom, top, zero, Scalar.max_eq, max_eq_left positive.le]

theorem exists_ofLabel?_percent (bottom : v.upward.start = 0) (positive : 0 < v.upward.finish)
    (value : Rat) :
    ∃ n : Int, Figure.ofLabel? (v.label .percent value) =
        some ⟨n * YAxis.percent.unit v.upward.finish, YAxis.percent.unit v.upward.finish⟩ ∧
      Exact.Rounded n (value / YAxis.percent.unit v.upward.finish) := by
  unfold label percentLabel YAxis.unit
  dsimp only
  rw [extent_of_zero bottom positive]
  split
  · rw [show (0.01 : Rat) = 1 / 10 ^ 2 by norm_num]
    exact Figure.exists_ofLabel?_fixedText 2 value
  split
  · rw [show (0.1 : Rat) = 1 / 10 ^ 1 by norm_num]
    exact Figure.exists_ofLabel?_fixedText 1 value
  · refine ⟨_, Figure.ofLabel?_text _ (rfl : Figure.worth? ['%'] = some 1), ?_⟩
    rw [div_one]
    exact Exact.rounded_nearestInt64 value

/-- One is not abbreviated, and it is read as one only where the other labels are not abbreviated
    either. -/
theorem exists_ofLabel?_int (bottom : v.upward.start = 0) (positive : 0 < v.upward.finish)
    {value : Rat} (plain : value = 1 → v.upward.finish ≤ 10000) :
    ∃ n : Int, Figure.ofLabel? (v.label .int value) =
        some ⟨n * YAxis.int.unit v.upward.finish, YAxis.int.unit v.upward.finish⟩ ∧
      Exact.Rounded n (value / YAxis.int.unit v.upward.finish) := by
  have whole (n : Int) : Figure.ofLabel? (Numeral.text n) = some ⟨n * 1, 1⟩ := by
    have read := Figure.ofLabel?_text n (rfl : Figure.worth? [] = some 1)
    rwa [String.ofList_nil, String.append_empty] at read
  unfold label intLabel YAxis.unit
  dsimp only
  rw [largest_of_zero bottom positive]
  by_cases one : value = 1
  · rw [if_pos (beq_iff_eq.mpr one), if_neg (not_lt.mpr (plain one)), one]
    exact ⟨1, whole 1, .of_near (by norm_num)⟩
  rw [if_neg (mt beq_iff_eq.mp one)]
  split
  · exact ⟨_, Figure.ofLabel?_text _ (rfl : Figure.worth? ['k'] = some 1000),
      Exact.rounded_nearestInt64 _⟩
  · refine ⟨_, whole _, ?_⟩
    rw [div_one]
    exact Exact.rounded_nearestInt64 value

/-- The whole numbers of units that the labels show, from the bottom to the top. -/
structure Shows (v : Viewport Rat) (kind : YAxis) (units : Nat → Int) : Prop where
  read : ∀ k : Nat, Figure.ofLabel? (v.label kind (k / 10 * v.upward.finish)) =
    some ⟨units k * kind.unit v.upward.finish, kind.unit v.upward.finish⟩
  rounded : ∀ k : Nat, Exact.Rounded (units k) (k * kind.step v.upward.finish)

theorem exists_shows (bottom : v.upward.start = 0) (low : kind.leastTop ≤ v.upward.finish) :
    ∃ units, Shows v kind units := by
  have positive : 0 < v.upward.finish := YAxis.leastTop_pos.trans_le low
  have each (k : Nat) : ∃ n : Int, Figure.ofLabel? (v.label kind (k / 10 * v.upward.finish)) =
        some ⟨n * kind.unit v.upward.finish, kind.unit v.upward.finish⟩ ∧
      Exact.Rounded n (k / 10 * v.upward.finish / kind.unit v.upward.finish) := by
    cases kind with
    | percent => exact exists_ofLabel?_percent bottom positive _
    | int =>
        refine exists_ofLabel?_int bottom positive fun one => ?_
        -- A gridline above the bottom is a tenth of the top up at least, so the top is ten at most.
        have filled : (1 : Rat) ≤ k := by
          rcases k.eq_zero_or_pos with rfl | some
          · norm_num at one
          · exact_mod_cast some
        nlinarith
  choose units read rounded using each
  refine ⟨units, read, fun k => ?_⟩
  have multiple : (k : Rat) * kind.step v.upward.finish = k / 10 * v.upward.finish /
      kind.unit v.upward.finish := by
    rw [YAxis.step]
    ring
  rw [multiple]
  exact rounded k

theorem Shows.lt {units : Nat → Int} (shows : Shows v kind units)
    (low : kind.leastTop ≤ v.upward.finish) (high : v.upward.finish < 2 ^ 63) {j k : Nat}
    (less : j < k) (le : k ≤ 10) : units j < units k :=
  Exact.Rounded.lt_of_multiples (YAxis.one_le_step low) (YAxis.ten_mul_step_lt low high)
    shows.rounded less le

theorem Shows.near {units : Nat → Int} (shows : Shows v kind units)
    (low : kind.leastTop ≤ v.upward.finish) (high : v.upward.finish < 2 ^ 63)
    (kept : kind.Kept v.upward.finish) {k : Nat} (le : k ≤ 10) :
    |units k * kind.unit v.upward.finish - k / 10 * v.upward.finish| ≤
      kind.unit v.upward.finish / 2 := by
  have unit := YAxis.unit_pos kind v.upward.finish
  have step : 0 ≤ kind.step v.upward.finish := zero_le_one.trans (YAxis.one_le_step low)
  have few : (k : Rat) ≤ 10 := by exact_mod_cast le
  have fits : |(k : Rat) * kind.step v.upward.finish| ≤ 2 ^ 63 - 1 / 2 := by
    rw [abs_of_nonneg (by positivity)]
    exact (mul_le_mul_of_nonneg_right few step).trans (YAxis.ten_mul_step_le_of_kept high kept)
  have near := (shows.rounded k).near fits
  have scaled : units k * kind.unit v.upward.finish - k / 10 * v.upward.finish =
      (units k - k * kind.step v.upward.finish) * kind.unit v.upward.finish := by
    rw [YAxis.step]
    field_simp
  rw [scaled, abs_mul, abs_of_pos unit]
  calc |(units k : Rat) - k * kind.step v.upward.finish| * kind.unit v.upward.finish
      ≤ 1 / 2 * kind.unit v.upward.finish := mul_le_mul_of_nonneg_right near unit.le
    _ = kind.unit v.upward.finish / 2 := by ring

theorem Shows.one {units : Nat → Int} (shows : Shows v .int units) {k : Nat}
    (one : (k : Rat) / 10 * v.upward.finish = 1) : v.label .int (k / 10 * v.upward.finish) = "1" ∧
      (⟨units k * YAxis.int.unit v.upward.finish, YAxis.int.unit v.upward.finish⟩ : Figure) =
        ⟨1, 1⟩ := by
  have label : v.label .int (k / 10 * v.upward.finish) = "1" := by
    rw [one]
    rfl
  have figure : Figure.ofLabel? "1" = some ⟨1, 1⟩ := by decide +kernel
  have read := shows.read k
  rw [label, figure, Option.some_inj] at read
  exact ⟨label, read.symm⟩

end Viewport

/-! ## The labels of an axis -/

/-- What is written by a mark, and the row of pixels that it is written in. -/
def Mark.written? : Mark Rat → Option (String × Rat)
  | .text words place _ _ _ => some (words, place.y)
  | _ => none

namespace Frame

variable {f : Frame Rat} {v : Viewport Rat} {kind : YAxis}

/-- The labels of the vertical axis with their rows, in the order in which they are drawn. -/
def labels (f : Frame Rat) (v : Viewport Rat) (kind : YAxis) : List (String × Rat) :=
  (f.yAxis v kind).filterMap Mark.written?

/-- The row of pixels of a gridline. -/
def gridRow (f : Frame Rat) (v : Viewport Rat) (value : Rat) : Rat :=
  Scalar.round (f.edges.top + v.row value + 0.5)

/-- Each gridline has one label, whether or not it has a tick. -/
theorem labels_eq (f : Frame Rat) (v : Viewport Rat) (kind : YAxis) :
    f.labels v kind = (gridValues v).map fun value => (v.label kind value, f.gridRow v value) := by
  have each (value : Rat) : (f.gridMarks v kind value).filterMap Mark.written? =
      [(v.label kind value, f.gridRow v value)] := by
    unfold gridMarks
    dsimp only
    split <;> rfl
  have line (p q : Point Rat) : (rule 2 p q).written? = none := rfl
  rw [labels, yAxis, List.filterMap_cons_none (line _ _), List.filterMap_flatMap,
    List.map_eq_flatMap]
  exact List.flatMap_congr fun value _ => each value

theorem gridValues_eq (bottom : v.upward.start = 0) :
    gridValues v = (List.range 11).map fun k : Nat => (k : Rat) / 10 * v.upward.finish := by
  refine List.map_congr_left fun k _ => ?_
  change v.upward.start + ((k : Int) : Rat) / 10 * (v.upward.finish - v.upward.start) = _
  rw [bottom, zero_add, sub_zero, Int.cast_natCast]

theorem map_fst_labels (bottom : v.upward.start = 0) : (f.labels v kind).map Prod.fst =
    (List.range 11).map fun k : Nat => v.label kind (k / 10 * v.upward.finish) := by
  rw [labels_eq, gridValues_eq bottom, List.map_map, List.map_map]
  rfl

theorem map_snd_labels (bottom : v.upward.start = 0) : (f.labels v kind).map Prod.snd =
    (List.range 11).map fun k : Nat => f.gridRow v (k / 10 * v.upward.finish) := by
  rw [labels_eq, gridValues_eq bottom, List.map_map, List.map_map]
  rfl

/-- What is greater has its label in a row that is not further down. -/
theorem gridRow_le_gridRow (bottom : v.upward.start = 0) (positive : 0 < v.upward.finish)
    (tall : 0 ≤ v.upward.length) {value other : Rat} (le : value ≤ other) :
    f.gridRow v other ≤ f.gridRow v value := by
  have places : v.upward.place value ≤ v.upward.place other := by
    rw [Scale.place, Scale.place, bottom, sub_zero, sub_zero, sub_zero]
    exact mul_le_mul_of_nonneg_right (div_le_div_of_nonneg_right le positive.le) tall
  have rows : f.edges.top + v.row other + 0.5 ≤ f.edges.top + v.row value + 0.5 := by
    rw [Viewport.row, Viewport.row]
    linarith
  exact Int.cast_le.mpr (Exact.nearest_le_nearest rows)

theorem pairwise_rows (bottom : v.upward.start = 0) (positive : 0 < v.upward.finish)
    (tall : 0 ≤ v.upward.length) :
    ((f.labels v kind).map Prod.snd).Pairwise (· ≥ ·) := by
  rw [map_snd_labels bottom, List.pairwise_map]
  refine List.pairwise_lt_range.imp fun {j k} less => gridRow_le_gridRow bottom positive tall ?_
  have tenths : (j : Rat) / 10 ≤ k / 10 :=
    div_le_div_of_nonneg_right (by exact_mod_cast less.le) (by norm_num)
  exact mul_le_mul_of_nonneg_right tenths positive.le

/-- What eleven labels show that are rounded to these numbers of units. -/
def figures (kind : YAxis) (top : Rat) (units : Nat → Int) : List Figure :=
  (List.range 11).map fun k => ⟨units k * kind.unit top, kind.unit top⟩

theorem pairwise_figures {top : Rat} {units : Nat → Int}
    (increasing : ∀ j k, j < k → k ≤ 10 → units j < units k) :
    (figures kind top units).Pairwise fun lower upper => lower.number < upper.number := by
  rw [figures, List.pairwise_map]
  refine List.pairwise_lt_range.imp_of_mem fun {j k} _ listed less => ?_
  have le : k ≤ 10 := Nat.le_of_lt_succ (List.mem_range.mp listed)
  exact mul_lt_mul_of_pos_right (by exact_mod_cast increasing j k less le) (YAxis.unit_pos kind top)

theorem getElem?_figures_eq_some_iff {top : Rat} {units : Nat → Int} {k : Nat} {figure : Figure} :
    (figures kind top units)[k]? = some figure ↔
      k ≤ 10 ∧ ⟨units k * kind.unit top, kind.unit top⟩ = figure := by
  rw [figures, List.getElem?_map, Option.map_eq_some_iff]
  constructor
  · rintro ⟨_, listed, same⟩
    obtain ⟨inside, rfl⟩ := List.getElem?_eq_some_iff.mp listed
    rw [List.getElem_range] at same
    rw [List.length_range] at inside
    exact ⟨Nat.le_of_lt_succ inside, same⟩
  · rintro ⟨le, same⟩
    exact ⟨k, List.getElem?_range (Nat.lt_succ_of_le le), same⟩

/-- The labels of a vertical axis that begins at zero: eleven numbers, each greater than the one
    below it and as near to the value of its gridline as its last place allows. -/
structure LabelsAscend (f : Frame Rat) (v : Viewport Rat) (kind : YAxis)
    (shown : List Figure) : Prop where
  values : gridValues v = (List.range 11).map fun k : Nat => (k : Rat) / 10 * v.upward.finish
  read : ((f.labels v kind).map Prod.fst).map Figure.ofLabel? = shown.map some
  count : shown.length = 11
  ascending : shown.Pairwise fun lower upper => lower.number < upper.number
  different : ((f.labels v kind).map Prod.fst).Nodup
  upward : 0 ≤ v.upward.length → ((f.labels v kind).map Prod.snd).Pairwise (· ≥ ·)
  unit : ∀ figure ∈ shown, figure.unit = kind.unit v.upward.finish
  near : kind.Kept v.upward.finish → ∀ (k : Nat) (figure : Figure), shown[k]? = some figure →
    |figure.number - k / 10 * v.upward.finish| ≤ figure.unit / 2
  one : kind = .int → ∀ k : Nat, k ≤ 10 → (k : Rat) / 10 * v.upward.finish = 1 →
    ((f.labels v kind).map Prod.fst)[k]? = some "1" ∧ shown[k]? = some ⟨1, 1⟩

/-- From a tenth of a percent or a count of ten at the top no two gridlines have the same label, and
    none is more than half a unit away from what its label shows. -/
theorem labels_ascend (f : Frame Rat) (v : Viewport Rat) (kind : YAxis)
    (bottom : v.upward.start = 0) (low : kind.leastTop ≤ v.upward.finish)
    (high : v.upward.finish < 2 ^ 63) :
    ∃ shown, LabelsAscend f v kind shown := by
  have positive : 0 < v.upward.finish := YAxis.leastTop_pos.trans_le low
  obtain ⟨units, shows⟩ := Viewport.exists_shows bottom low
  have read : ((f.labels v kind).map Prod.fst).map Figure.ofLabel? =
      (figures kind v.upward.finish units).map some := by
    rw [map_fst_labels bottom, figures, List.map_map, List.map_map]
    exact List.map_congr_left fun k _ => shows.read k
  have ascending : (figures kind v.upward.finish units).Pairwise fun lower upper =>
      lower.number < upper.number :=
    pairwise_figures fun j k => shows.lt low high
  refine ⟨figures kind v.upward.finish units, ?_⟩
  constructor
  case values => exact gridValues_eq bottom
  case read => exact read
  case count => simp [figures]
  case ascending => exact ascending
  case different =>
    have different : (((f.labels v kind).map Prod.fst).map Figure.ofLabel?).Nodup := by
      rw [read]
      refine List.Nodup.map (Option.some_injective _) (ascending.imp fun less same => ?_)
      rw [same] at less
      exact lt_irrefl _ less
    exact different.of_map
  case upward => exact pairwise_rows bottom positive
  case unit =>
    intro figure listed
    obtain ⟨k, -, rfl⟩ := List.mem_map.mp listed
    rfl
  case near =>
    intro kept k figure listed
    obtain ⟨le, rfl⟩ := getElem?_figures_eq_some_iff.mp listed
    exact shows.near low high kept le
  case one =>
    rintro rfl k le one
    obtain ⟨label, figure⟩ := shows.one one
    refine ⟨?_, getElem?_figures_eq_some_iff.mpr ⟨le, figure⟩⟩
    rw [map_fst_labels bottom, List.getElem?_map, List.getElem?_range (Nat.lt_succ_of_le le),
      Option.map_some, label]

/-- Just below a top of ten there are still places, and the uppermost label is halfway between two
    of them. -/
theorem labels_ascend_tie :
    let f : Frame Rat := .ofSize .standard 20 1000 300
    let v : Viewport Rat := ⟨⟨0, 1, f.width⟩, ⟨0, 9.95, f.height⟩⟩
    (v.upward.start = 0 ∧ YAxis.percent.leastTop ≤ v.upward.finish ∧ v.upward.finish < 2 ^ 63) ∧
      YAxis.percent.Kept v.upward.finish ∧
      (f.labels v .percent).map Prod.fst =
        ["0.0%", "1.0%", "2.0%", "3.0%", "4.0%", "5.0%", "6.0%", "7.0%", "8.0%", "9.0%", "10.0%"] ∧
      ∃ shown, LabelsAscend f v .percent shown := by
  intro f v
  have range : v.upward.start = 0 ∧ YAxis.percent.leastTop ≤ v.upward.finish ∧
      v.upward.finish < 2 ^ 63 := by
    decide +kernel
  have texts : (f.labels v .percent).map Prod.fst =
      ["0.0%", "1.0%", "2.0%", "3.0%", "4.0%", "5.0%", "6.0%", "7.0%", "8.0%", "9.0%",
        "10.0%"] := by
    decide +kernel
  have kept : v.upward.finish ≤ 2 ^ 63 - 1 / 2 := by decide +kernel
  exact ⟨range, .inr (.inl kept), texts, labels_ascend f v .percent range.1 range.2.1 range.2.2⟩

end Frame

end LadderAtlas
