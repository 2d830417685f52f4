import LadderAtlas.Chart.Format
import LadderAtlas.Proofs.Graph.Inverses
import LadderAtlas.Proofs.Graph.Ticks

/-! # Columns of dates

The dates that have columns are the days of the Gregorian calendar. The moment read back from the
column of a date is midnight of that date, and the text of its time names the date, so all the ways
to reckon leap years agree. Columns go in the order of the dates, and a month is as wide as its
days.
-/

namespace LadderAtlas

/-! ## Texts of times -/

theorem Instant.exists_timestamp {t : Instant} (within : t.inRange = true) :
    ∃ timestamp : Int64, timestamp.toInt = t.seconds := by
  obtain ⟨least, most⟩ := seconds_of_inRange within
  exact ⟨.ofInt t.seconds, Int64.toInt_ofInt_of_le (by omega) (by omega)⟩

theorem Format.date_midnight {d : Date} (wellFormed : d.WellFormed)
    (within : d.midnight.inRange = true) {timestamp : Int64}
    (time : timestamp.toInt = d.midnight.seconds) : Format.date timestamp = d.text := by
  have found : Instant.ofSeconds? timestamp.toInt 0 = some d.midnight :=
    Instant.ofSeconds?_eq_some_iff.mpr ⟨by rw [time]; rfl, within⟩
  have same := Instant.date_midnight wellFormed
  simp only [Format.date, found, same]

namespace Viewport

variable {v : Viewport Rat}

/-! ## Dates -/

theorem columnOfDate?_eq_some_iff {d : Date} {x : Rat} : v.columnOfDate? d = some x ↔
    ((Calendar.firstYear ≤ d.year ∧ d.year ≤ Calendar.lastYear) ∧ d.WellFormed) ∧
      v.across.place (d.midnight.seconds : Rat) = x := by
  rw [columnOfDate?, Option.ite_none_right_eq_some, Date.valid_iff, Option.some_inj,
    columnOf_midnight]

/-- What is read back from the column of a date is midnight of the date. -/
theorem instantAt?_of_columnOfDate? (invertible : v.across.Invertible) {d : Date} {x : Rat}
    (there : v.columnOfDate? d = some x) : v.instantAt? x = some d.midnight := by
  obtain ⟨⟨⟨first, last⟩, wellFormed⟩, rfl⟩ := columnOfDate?_eq_some_iff.mp there
  rw [instantAt?_eq, invertible.valueAt_place, ← Instant.time_midnight]
  exact Instant.ofTime?_time (Instant.inRange_midnight wellFormed first last)
    (show 0 < 1000000000 by decide)

theorem columnOfDate?_lt (proper : v.across.Proper) {d e : Date} (before : d < e) {x y : Rat}
    (first : v.columnOfDate? d = some x) (second : v.columnOfDate? e = some y) : x < y := by
  obtain ⟨⟨-, ofD⟩, rfl⟩ := columnOfDate?_eq_some_iff.mp first
  obtain ⟨⟨-, ofE⟩, rfl⟩ := columnOfDate?_eq_some_iff.mp second
  have seconds : d.midnight.seconds < e.midnight.seconds :=
    mul_lt_mul_of_pos_right (ofD.dayNumber_lt ofE before) (by decide)
  exact proper.place_lt_place_iff.mpr (by exact_mod_cast seconds)

/-! ## Months -/

/-- After a month comes the day that is as many days after its first as the month has. -/
theorem exists_columnOfMonth?_next (v : Viewport Rat) (year : Int) {month : Nat} (first : 1 ≤ month)
    (last : month ≤ 12) : ∃ d, v.columnOfMonth? year (month + 1) = v.columnOfDate? d ∧
      d.dayNumber = (Date.mk year month 1).dayNumber + Calendar.daysInMonth year month := by
  rcases last.lt_or_eq with early | rfl
  · refine ⟨⟨year, month + 1, 1⟩, ?_, Date.dayNumber_nextMonth year first early⟩
    rw [columnOfMonth?, if_neg (by omega)]
  · refine ⟨⟨year + 1, 1, 1⟩, ?_, Date.dayNumber_nextYear year⟩
    rw [columnOfMonth?, if_pos (by decide)]

theorem columnOfMonth?_width {year : Int} {month : Nat} (first : 1 ≤ month)
    (last : month ≤ 12) {x y : Rat} (begins : v.columnOfMonth? year month = some x)
    (ends : v.columnOfMonth? year (month + 1) = some y) :
    y - x = Calendar.daysInMonth year month * 86400 * v.across.density := by
  obtain ⟨d, next, days⟩ := exists_columnOfMonth?_next v year first last
  rw [columnOfMonth?, if_neg (by omega)] at begins
  rw [next] at ends
  obtain ⟨-, rfl⟩ := columnOfDate?_eq_some_iff.mp begins
  obtain ⟨-, rfl⟩ := columnOfDate?_eq_some_iff.mp ends
  rw [Scale.place_sub_place]
  simp only [Date.midnight, days, Calendar.secondsPerDay]
  push_cast
  ring

/-- Dates and their columns say the same, in every place where the calendar is reckoned. -/
theorem dates_read_back (v : Viewport Rat) (range : v.across.start ≠ v.across.finish)
    (length : v.across.length ≠ 0) :
    (∀ d : Date, Calendar.firstYear ≤ d.year → d.year ≤ Calendar.lastYear →
      ((v.columnOfDate? d).isSome = true ↔ d.Gregorian) ∧
      ∀ x, v.columnOfDate? d = some x → ∃ t, v.instantAt? x = some t ∧
        t.date = d ∧ t.seconds % 86400 = 0 ∧ t.nanos = 0 ∧
        ∃ timestamp : Int64, timestamp.toInt = t.seconds ∧ d.WrittenAs (Format.date timestamp)) ∧
    (v.across.start < v.across.finish → 0 < v.across.length → ∀ d e x y, d < e →
      v.columnOfDate? d = some x → v.columnOfDate? e = some y → x < y) ∧
    (∀ year, v.columnOfMonth? year 13 = v.columnOfMonth? (year + 1) 1) ∧
    ∀ (year : Int) (month : Nat), Calendar.firstYear ≤ year → year ≤ Calendar.lastYear →
      1 ≤ month → month ≤ 12 →
      ∃ x days, v.columnOfMonth? year month = some x ∧
        (Calendar.monthLengths year)[month - 1]? = some days ∧
        ((v.columnOfMonth? year (month + 1)).isSome = true ↔
          (year, month) ≠ (Calendar.lastYear, 12)) ∧
        ∀ y, v.columnOfMonth? year (month + 1) = some y →
          y - x = days * 86400 * v.across.density := by
  have invertible : v.across.Invertible := ⟨range, length⟩
  refine ⟨fun d first last => ⟨?_, fun x there => ?_⟩, fun ascending positive d e x y before => ?_,
    fun year => rfl, fun year month early late first last => ?_⟩
  · rw [Option.isSome_iff_exists, Date.gregorian_iff]
    constructor
    · intro ⟨x, there⟩
      exact (columnOfDate?_eq_some_iff.mp there).1.2
    · intro wellFormed
      exact ⟨_, columnOfDate?_of_wellFormed wellFormed first last⟩
  · have wellFormed := (columnOfDate?_eq_some_iff.mp there).1.2
    have within := Instant.inRange_midnight wellFormed first last
    obtain ⟨timestamp, time⟩ := Instant.exists_timestamp within
    refine ⟨d.midnight, instantAt?_of_columnOfDate? invertible there,
      Instant.date_midnight wellFormed, Int.mul_emod_left _ _, rfl, timestamp, time, ?_⟩
    rw [Format.date_midnight wellFormed within time]
    exact wellFormed.writtenAs_text
  · exact columnOfDate?_lt ⟨ascending, positive⟩ before
  · have known : Frame.InCalendar year := ⟨early, late⟩
    have begins := Frame.columnOfMonth?_eq (v := v) known first last
    have next := Frame.isSome_columnOfMonth?_next (v := v) known first last
    refine ⟨_, _, begins, Calendar.getElem?_monthLengths year first last, ?_, fun y ends => ?_⟩
    · rw [next, decide_eq_true_eq]
    · exact columnOfMonth?_width first last begins ends

/-- The leap day of the year 5 B.C. and the day after it. -/
theorem dates_read_back_leap_day :
    let v : Viewport Rat := ⟨⟨-62300000000, -62200000000, 1000⟩, ⟨0, 1, 50⟩⟩
    let d : Date := ⟨-4, 2, 29⟩
    let e : Date := ⟨-4, 3, 1⟩
    (v.across.start < v.across.finish ∧ 0 < v.across.length) ∧
      (d.Gregorian ∧ e.Gregorian ∧ d < e) ∧
      (∃ x y t, v.columnOfDate? d = some x ∧ v.columnOfDate? e = some y ∧ x < y ∧
        v.instantAt? x = some t ∧
        t.date = d ∧ t.seconds % 86400 = 0 ∧
        ∃ timestamp : Int64, timestamp.toInt = t.seconds ∧ d.WrittenAs (Format.date timestamp)) ∧
      ∃ x y, v.columnOfMonth? (-4) 2 = some x ∧ v.columnOfMonth? (-4) 3 = some y ∧
        y - x = 29 * 86400 * v.across.density := by
  intro v d e
  have ends : v.across.start < v.across.finish ∧ 0 < v.across.length := by decide +kernel
  have leapDay : d.Gregorian := ⟨by decide, 29, by decide, by decide⟩
  have nextDay : e.Gregorian := ⟨by decide, 31, by decide, by decide⟩
  have before : d < e := Date.lt_def.mpr (by decide)
  obtain ⟨dates, order, -, months⟩ := dates_read_back v ends.1.ne ends.2.ne'
  obtain ⟨ofD, reads⟩ := dates d (by decide) (by decide)
  obtain ⟨ofE, -⟩ := dates e (by decide) (by decide)
  obtain ⟨x, there⟩ := Option.isSome_iff_exists.mp (ofD.mpr leapDay)
  obtain ⟨y, next⟩ := Option.isSome_iff_exists.mp (ofE.mpr nextDay)
  obtain ⟨t, read, same, midnight, -, text⟩ := reads x there
  obtain ⟨begin, days, february, twentyNine, march, width⟩ :=
    months (-4) 2 (by decide) (by decide) (by decide) (by decide)
  obtain ⟨finish, following⟩ := Option.isSome_iff_exists.mp (march.mpr (by decide))
  cases twentyNine
  exact ⟨ends, ⟨leapDay, nextDay, before⟩,
    ⟨x, y, t, there, next, order ends.1 ends.2 d e x y before there next, read, same,
      midnight, text⟩,
    begin, finish, february, following, width finish following⟩

end Viewport

end LadderAtlas
