import LadderAtlas.Graph.Viewport
import LadderAtlas.Proofs.Calendar
import LadderAtlas.Proofs.Number.Exact
import Mathlib.Tactic.FieldSimp

/-! # Columns, rows and moments

With exact numbers a scale and its inverse undo one another and go in the order of their values. So
the moments at two columns, cut off to whole seconds as they are, tell which dates have their
columns in between, and the values of the range are those that have their rows in the graph area.
-/

namespace LadderAtlas

/-! ## Scales -/

namespace Scale

/-- A scale with two different ends, onto pixels in either direction. -/
structure Invertible (s : Scale Rat) : Prop where
  range : s.start ≠ s.finish
  length : s.length ≠ 0

/-- A scale over some range of values, onto some pixels. -/
structure Proper (s : Scale Rat) : Prop where
  range : s.start < s.finish
  length : 0 < s.length

variable {s : Scale Rat}

theorem Proper.invertible (h : s.Proper) : s.Invertible := ⟨h.range.ne, h.length.ne'⟩

theorem Invertible.place_valueAt (h : s.Invertible) (x : Rat) : s.place (s.valueAt x) = x := by
  have range : s.finish - s.start ≠ 0 := sub_ne_zero.mpr h.range.symm
  have length : s.length ≠ 0 := h.length
  unfold place valueAt density
  field_simp
  ring

theorem Invertible.valueAt_place (h : s.Invertible) (t : Rat) : s.valueAt (s.place t) = t := by
  have range : s.finish - s.start ≠ 0 := sub_ne_zero.mpr h.range.symm
  have length : s.length ≠ 0 := h.length
  unfold place valueAt density
  field_simp
  ring

theorem place_start (s : Scale Rat) : s.place s.start = 0 := by
  rw [place, sub_self, zero_div, zero_mul]

theorem Invertible.place_finish (h : s.Invertible) : s.place s.finish = s.length := by
  rw [place, div_self (sub_ne_zero.mpr h.range.symm), one_mul]

/-- What is between two values has so many pixels for each unit. -/
theorem place_sub_place (s : Scale Rat) (t u : Rat) :
    s.place u - s.place t = (u - t) * s.density := by
  unfold place density
  ring

theorem Proper.place_lt_place_iff (h : s.Proper) {t u : Rat} : s.place t < s.place u ↔ t < u := by
  have range : 0 < s.finish - s.start := sub_pos.mpr h.range
  unfold place
  rw [mul_lt_mul_iff_left₀ h.length, div_lt_div_iff_of_pos_right range]
  exact sub_lt_sub_iff_right s.start

theorem Proper.place_le_place_iff (h : s.Proper) {t u : Rat} : s.place t ≤ s.place u ↔ t ≤ u := by
  rw [← not_lt, h.place_lt_place_iff, not_lt]

theorem Proper.lt_place_iff (h : s.Proper) {x t : Rat} : x < s.place t ↔ s.valueAt x < t := by
  rw [← h.place_lt_place_iff (t := s.valueAt x), h.invertible.place_valueAt]

theorem Proper.place_le_iff (h : s.Proper) {x t : Rat} : s.place t ≤ x ↔ t ≤ s.valueAt x := by
  rw [← not_lt, h.lt_place_iff, not_lt]

theorem Proper.valueAt_le_valueAt_iff (h : s.Proper) {x y : Rat} :
    s.valueAt x ≤ s.valueAt y ↔ x ≤ y := by
  rw [← h.place_le_iff, h.invertible.place_valueAt]

end Scale

/-! ## Rows -/

namespace Viewport

variable {v : Viewport Rat} {value other : Rat}

theorem row_finish (invertible : v.upward.Invertible) : v.row v.upward.finish = 0 := by
  rw [row, invertible.place_finish, sub_self]

/-- Greater values are further up. -/
theorem row_le_row_iff (h : v.upward.Proper) : v.row value ≤ v.row other ↔ other ≤ value := by
  rw [row, row, sub_le_sub_iff_left, h.place_le_place_iff]

/-- Values of the range have their rows in the graph area. -/
theorem row_mem_Icc (h : v.upward.Proper) (low : v.upward.start ≤ value)
    (high : value ≤ v.upward.finish) :
    0 ≤ v.row value ∧ v.row value ≤ v.upward.length := by
  constructor
  · rw [← row_finish h.invertible, row_le_row_iff h]
    exact high
  · have bottom : 0 ≤ v.upward.place value := v.upward.place_start ▸ h.place_le_place_iff.mpr low
    exact sub_le_self _ bottom

end Viewport

/-! ## Moments -/

namespace Instant

open Calendar

theorem ofSeconds?_eq_some_iff {seconds : Int} {nanos : Nat} {t : Instant} :
    ofSeconds? seconds nanos = some t ↔ t = ⟨seconds, nanos⟩ ∧ t.inRange = true := by
  simp only [ofSeconds?, Option.ite_none_right_eq_some, Option.some.injEq]
  constructor
  · rintro ⟨within, rfl⟩
    exact ⟨rfl, within⟩
  · rintro ⟨rfl, within⟩
    exact ⟨within, rfl⟩

/-- The calendar ends long before 64 bits do. -/
theorem seconds_of_inRange {t : Instant} (within : t.inRange = true) :
    -0x8000_0000_0000_0000 < t.seconds ∧ t.seconds < 0x7FFF_FFFF_FFFF_FFFF := by
  have days : -100000000 ≤ (Date.mk firstYear 1 1).dayNumber ∧
      (Date.mk lastYear 12 31).dayNumber ≤ 100000000 := by decide
  simp only [inRange, Bool.and_eq_true, decide_eq_true_eq] at within
  simp only [secondsPerDay] at within
  omega

/-- It never matters that seconds are held in 64 bits. -/
theorem ofSeconds?_held (seconds : Int) (nanos : Nat) :
    ofSeconds? (max (-0x8000_0000_0000_0000) (min 0x7FFF_FFFF_FFFF_FFFF seconds)) nanos =
      ofSeconds? seconds nanos := by
  have outside {n : Int} (far : n ≤ -0x8000_0000_0000_0000 ∨ 0x7FFF_FFFF_FFFF_FFFF ≤ n) :
      ofSeconds? n nanos = none := by
    refine if_neg fun within => ?_
    have bounds := seconds_of_inRange within
    simp only at bounds
    omega
  by_cases fits : -0x8000_0000_0000_0000 ≤ seconds ∧ seconds ≤ 0x7FFF_FFFF_FFFF_FFFF
  · rw [min_eq_right fits.2, max_eq_right fits.1]
  · rw [outside (n := seconds) (by omega), outside (by omega)]

/-- A moment as a number of seconds. -/
def time (t : Instant) : Rat := t.seconds + t.nanos * 1e-9

/-- The moment at a number of seconds, cut off to whole nanoseconds, if the calendar reaches that
    far. -/
def ofTime? (time : Rat) : Option Instant :=
  ofSeconds? time.floor ((time - time.floor) * 1e9).floor.toNat

theorem time_midnight (d : Date) : d.midnight.time = d.midnight.seconds := by
  simp [time, Date.midnight]

end Instant

namespace Viewport

variable {v : Viewport Rat}

theorem columnOf_eq (v : Viewport Rat) (t : Instant) : v.columnOf t = v.across.place t.time := rfl

theorem columnOf_midnight (v : Viewport Rat) (d : Date) :
    v.columnOf d.midnight = v.across.place (d.midnight.seconds : Rat) := by
  rw [columnOf_eq, Instant.time_midnight]

theorem nanosOf_eq {part : Rat} (low : 0 ≤ part) (high : part < 1) :
    nanosOf part = (part * 1e9).floor.toNat := by
  have nonneg : 0 ≤ part * 1e9 := by positivity
  have whole : Exact.integerPart (part * 1e9) = (part * 1e9).floor := if_pos nonneg
  have above : 0 ≤ (part * 1e9).floor := Rat.le_floor_iff.mpr (by simpa using nonneg)
  have below : (part * 1e9).floor < 1000000000 := Rat.floor_lt_iff.mpr (by push_cast; linarith)
  change min (max 0 (min 0xFFFF_FFFF (Exact.integerPart (part * 1e9)))).toNat 999999999 = _
  omega

/-- With exact numbers nothing but the nanoseconds is cut off. -/
theorem instantAt?_eq (v : Viewport Rat) (x : Rat) :
    v.instantAt? x = Instant.ofTime? (v.across.valueAt x) := by
  rw [instantAt?]
  generalize v.across.valueAt x = time
  have finite : Scalar.isFinite time = true := rfl
  have whole : Scalar.toInt64 (Scalar.floor time) =
      max (-0x8000_0000_0000_0000) (min 0x7FFF_FFFF_FFFF_FFFF time.floor) := by
    change max _ (min _ (Exact.integerPart (time.floor : Rat))) = _
    rw [Exact.integerPart_intCast]
  have nanos : nanosOf (time - Scalar.floor time) = ((time - time.floor) * 1e9).floor.toNat :=
    nanosOf_eq (sub_nonneg.mpr (Rat.floor_le time)) (sub_lt_comm.mp Rat.lt_floor)
  simp only [finite, if_true, whole, nanos]
  exact Instant.ofSeconds?_held _ _

theorem seconds_of_instantAt? {x : Rat} {t : Instant} (found : v.instantAt? x = some t) :
    t.inRange = true ∧ t.seconds = (v.across.valueAt x).floor := by
  rw [instantAt?_eq, Instant.ofTime?, Instant.ofSeconds?_eq_some_iff] at found
  obtain ⟨rfl, within⟩ := found
  exact ⟨within, rfl⟩

/-- A date with its column right of a column is not in a year before the moment there. -/
theorem year_le_of_lt_columnOf (h : v.across.Proper) {x : Rat} {t : Instant}
    (found : v.instantAt? x = some t) {d : Date} (wellFormed : d.WellFormed)
    (right : x < v.columnOf d.midnight) : t.date.year ≤ d.year := by
  obtain ⟨-, seconds⟩ := seconds_of_instantAt? found
  rw [columnOf_midnight, h.lt_place_iff] at right
  by_contra later
  have begun := (t.year_le_iff (d.year + 1)).mp (not_le.mp later)
  have before : d.midnight.seconds < (Date.mk (d.year + 1) 1 1).midnight.seconds :=
    mul_lt_mul_of_pos_right wellFormed.lt_newYear (by decide)
  have moment : (d.midnight.seconds : Rat) ≤ v.across.valueAt x := by
    rw [← Rat.le_floor_iff, ← seconds]
    exact before.le.trans begun
  exact absurd right (not_lt.mpr moment)

/-- A date with its column not right of a column is not in a year after the moment there. -/
theorem le_year_of_columnOf_le (h : v.across.Proper) {x : Rat} {t : Instant}
    (found : v.instantAt? x = some t) {d : Date} (wellFormed : d.WellFormed)
    (left : v.columnOf d.midnight ≤ x) : d.year ≤ t.date.year := by
  obtain ⟨-, seconds⟩ := seconds_of_instantAt? found
  rw [columnOf_midnight, h.place_le_iff, ← Rat.le_floor_iff, ← seconds] at left
  have begun : (Date.mk d.year 1 1).midnight.seconds ≤ d.midnight.seconds :=
    mul_le_mul_of_nonneg_right wellFormed.newYear_le (by decide)
  exact (t.year_le_iff d.year).mpr (begun.trans left)

/-- A date of the calendar has a column. -/
theorem columnOfDate?_of_wellFormed {d : Date} (wellFormed : d.WellFormed)
    (first : Calendar.firstYear ≤ d.year) (last : d.year ≤ Calendar.lastYear) :
    v.columnOfDate? d = some (v.columnOf d.midnight) := by
  obtain ⟨month, day⟩ := wellFormed
  have valid : d.valid = true := by simp [Date.valid, first, last, month, day]
  rw [columnOfDate?, if_pos valid]

end Viewport

end LadderAtlas
