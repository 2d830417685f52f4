import LadderAtlas.Proofs.Graph.Viewports

/-! # Columns read back

A column read back gives the value that it was made from, and the moment that it was made from to
the nanosecond: seconds are cut off downwards, before 1970 as well as after, so the nanoseconds are
never negative. Reading goes in the order of the columns, and the columns that have a moment are
without gaps.
-/

namespace LadderAtlas

namespace Instant

/-- Moments in the order of time. -/
instance : LE Instant where
  le t u := t.seconds < u.seconds ∨ t.seconds = u.seconds ∧ t.nanos ≤ u.nanos

theorem le_def {t u : Instant} :
    t ≤ u ↔ t.seconds < u.seconds ∨ t.seconds = u.seconds ∧ t.nanos ≤ u.nanos :=
  Iff.rfl

/-! ## Times -/

theorem floor_time {t : Instant} (below : t.nanos < 1000000000) : t.time.floor = t.seconds := by
  have least : (0 : Rat) ≤ t.nanos := Nat.cast_nonneg _
  have most : (t.nanos : Rat) < 1000000000 := by exact_mod_cast below
  apply le_antisymm
  · rw [← Int.lt_add_one_iff, Rat.floor_lt_iff, time]
    push_cast
    linarith
  · rw [Rat.le_floor_iff, time]
    linarith

/-- No nanosecond is lost. -/
theorem ofTime?_time {t : Instant} (within : t.inRange = true) (below : t.nanos < 1000000000) :
    ofTime? t.time = some t := by
  have nanos : (t.time - t.seconds) * 1e9 = (t.nanos : Rat) := by
    rw [time]
    ring
  rw [ofTime?, floor_time below, nanos, ofSeconds?_eq_some_iff]
  refine ⟨?_, within⟩
  have whole : ((t.nanos : Rat)).floor = (t.nanos : Int) := by
    exact_mod_cast Rat.floor_intCast t.nanos
  rw [whole, Int.toNat_natCast]

theorem ofTime?_eq_some_iff {time : Rat} {t : Instant} : ofTime? time = some t ↔
    t = ⟨time.floor, ((time - time.floor) * 1e9).floor.toNat⟩ ∧ t.inRange = true :=
  ofSeconds?_eq_some_iff

/-- The moment of a later time is not earlier. -/
theorem le_of_ofTime? {r s : Rat} (order : r ≤ s) {t u : Instant} (first : ofTime? r = some t)
    (second : ofTime? s = some u) : t ≤ u := by
  obtain ⟨rfl, -⟩ := ofTime?_eq_some_iff.mp first
  obtain ⟨rfl, -⟩ := ofTime?_eq_some_iff.mp second
  rw [le_def]
  rcases (Rat.floor_monotone order).lt_or_eq with earlier | same
  · exact .inl earlier
  · refine .inr ⟨same, Int.toNat_le_toNat (Rat.floor_monotone ?_)⟩
    simp only [same]
    linarith

/-- Between two times that have moments every time has one. -/
theorem exists_ofTime?_between {r s time : Rat} (after : r ≤ time) (before : time ≤ s)
    {t u : Instant} (first : ofTime? r = some t) (last : ofTime? s = some u) :
    ∃ m, ofTime? time = some m := by
  obtain ⟨rfl, begun⟩ := ofTime?_eq_some_iff.mp first
  obtain ⟨rfl, ended⟩ := ofTime?_eq_some_iff.mp last
  refine ⟨_, ofTime?_eq_some_iff.mpr ⟨rfl, ?_⟩⟩
  simp only [inRange, Bool.and_eq_true, decide_eq_true_eq] at begun ended ⊢
  have day : (0 : Int) < Calendar.secondsPerDay := by decide
  exact ⟨begun.1.trans (Int.ediv_le_ediv day (Rat.floor_monotone after)),
    (Int.ediv_le_ediv day (Rat.floor_monotone before)).trans ended.2⟩

end Instant

/-! ## Rows -/

/-- A row is as far down as its value is from the top, whichever end of the range is the larger
    one. -/
theorem Scale.place_valueAtFraction {s : Scale Rat} (range : s.start ≠ s.finish) (fraction : Rat) :
    s.place (s.valueAtFraction fraction) = fraction * s.length := by
  have apart : s.finish - s.start ≠ 0 := sub_ne_zero.mpr range.symm
  unfold place valueAtFraction
  field_simp
  ring

namespace Viewport

/-! ## Viewports -/

/-- Columns give back their values and moments, in order and without gaps, and rows their
    fractions. -/
theorem columns_read_back (v : Viewport Rat) :
    (v.across.start ≠ v.across.finish → v.across.length ≠ 0 →
      (∀ value, v.across.valueAt (v.column value) = value) ∧
      (∀ x, v.column (v.across.valueAt x) = x) ∧
      ∀ t : Instant, t.inRange = true → t.nanos < 1000000000 →
        v.instantAt? (v.columnOf t) = some t) ∧
    (v.across.start < v.across.finish → 0 < v.across.length →
      ∀ x y, x ≤ y → ∀ t u, v.instantAt? x = some t → v.instantAt? y = some u →
        t ≤ u ∧ ∀ z, x ≤ z → z ≤ y → ∃ m, v.instantAt? z = some m ∧ t ≤ m ∧ m ≤ u) ∧
    (v.upward.start ≠ v.upward.finish →
      ∀ fraction, v.row (v.upward.valueAtFraction fraction) =
        v.upward.length * (1 - fraction)) := by
  refine ⟨?_, ?_, ?_⟩
  · intro range length
    have invertible : v.across.Invertible := ⟨range, length⟩
    refine ⟨invertible.valueAt_place, invertible.place_valueAt, ?_⟩
    intro t within below
    rw [instantAt?_eq, columnOf_eq, invertible.valueAt_place, Instant.ofTime?_time within below]
  · intro range length x y order t u first last
    have proper : v.across.Proper := ⟨range, length⟩
    rw [instantAt?_eq] at first last
    refine ⟨Instant.le_of_ofTime? (proper.valueAt_le_valueAt_iff.mpr order) first last, ?_⟩
    intro z after before
    have afterFirst := proper.valueAt_le_valueAt_iff.mpr after
    have beforeLast := proper.valueAt_le_valueAt_iff.mpr before
    obtain ⟨m, between⟩ := Instant.exists_ofTime?_between afterFirst beforeLast first last
    refine ⟨m, ?_, Instant.le_of_ofTime? afterFirst first between,
      Instant.le_of_ofTime? beforeLast between last⟩
    rw [instantAt?_eq, between]
  · intro range fraction
    rw [row, Scale.place_valueAtFraction range]
    ring

/-- The last nanosecond before 1970, read back from a column, with ranks counted from the top. -/
theorem columns_read_back_before_1970 :
    let v : Viewport Rat := ⟨⟨-86400, 86400, 700⟩, ⟨1001, 1, 50⟩⟩
    let t : Instant := ⟨-1, 999999999⟩
    (v.across.start < v.across.finish ∧ 0 < v.across.length ∧ v.upward.start ≠ v.upward.finish) ∧
      (t.inRange = true ∧ t.nanos < 1000000000 ∧ v.instantAt? 0 = some ⟨-86400, 0⟩ ∧
        v.columnOf t ≤ 700) ∧
      v.across.valueAt (v.column 0) = 0 ∧ v.column (v.across.valueAt 1) = 1 ∧
      v.instantAt? (v.columnOf t) = some t ∧ (⟨-86400, 0⟩ : Instant) ≤ t ∧
      v.row (v.upward.valueAtFraction (1 / 10)) = 50 * (1 - 1 / 10) := by
  intro v t
  have ends : v.across.start < v.across.finish ∧ 0 < v.across.length ∧
      v.upward.start ≠ v.upward.finish := by
    decide +kernel
  have moments : t.inRange = true ∧ t.nanos < 1000000000 ∧ v.instantAt? 0 = some ⟨-86400, 0⟩ ∧
      0 ≤ v.columnOf t ∧ v.columnOf t ≤ 700 := by
    decide +kernel
  obtain ⟨within, below, midnight, left, right⟩ := moments
  obtain ⟨inverse, order, rows⟩ := columns_read_back v
  obtain ⟨values, columns, reads⟩ := inverse ends.1.ne ends.2.1.ne'
  have later := (order ends.1 ends.2.1 0 (v.columnOf t) left _ t midnight (reads t within below)).1
  exact ⟨ends, ⟨within, below, midnight, right⟩, values 0, columns 1, reads t within below, later,
    rows ends.2.2 (1 / 10)⟩

end Viewport

end LadderAtlas
