import LadderAtlas.Calendar
import LadderAtlas.Proofs.Number.Numerals
import Mathlib.Tactic.IntervalCases

/-! # Days and dates

Every day has one date and every date of the calendar one day, and both go in the same order. A day
of an era is counted by centuries, by four years, by years and by days; this is where the leap years
are accounted for, once.
-/

namespace LadderAtlas

namespace Calendar

/-! ## Eras -/

/-- A day of an era: `c` centuries, `q` times four years, `r` years and `s` days after its start.
    There are years of 366 days only at the end of four years, and at the end of a century only of
    the last one. -/
structure EraDay (c q r s : Int) : Prop where
  centuries : 0 ≤ c ∧ c ≤ 3
  fours : 0 ≤ q ∧ q ≤ 24
  years : 0 ≤ r ∧ r ≤ 3
  days : 0 ≤ s ∧ s ≤ 365
  leap : s = 365 → r = 3 ∧ (q < 24 ∨ c = 3)

theorem exists_eraDay {n : Int} (first : 0 ≤ n) (last : n < 146097) :
    ∃ c q r s, EraDay c q r s ∧ n = 36524 * c + 1461 * q + 365 * r + s := by
  -- The last day of the era would be in a fifth century, and the last day of a leap year in a fifth
  -- year.
  obtain ⟨c, m, centuries, century, inCentury⟩ : ∃ c m, (0 ≤ c ∧ c ≤ 3) ∧ n = 36524 * c + m ∧
      (0 ≤ m ∧ (m < 36524 ∨ m = 36524 ∧ c = 3)) :=
    ⟨min 3 (n / 36524), n - 36524 * min 3 (n / 36524), by omega⟩
  obtain ⟨q, k, fours, four, inFour⟩ : ∃ q k,
      (0 ≤ q ∧ q ≤ 24) ∧ m = 1461 * q + k ∧ (0 ≤ k ∧ k < 1461) :=
    ⟨m / 1461, m % 1461, by omega⟩
  obtain ⟨r, s, years, year, inYear⟩ : ∃ r s, (0 ≤ r ∧ r ≤ 3) ∧ k = 365 * r + s ∧
      (0 ≤ s ∧ (s < 365 ∨ s = 365 ∧ r = 3)) :=
    ⟨min 3 (k / 365), k - 365 * min 3 (k / 365), by omega⟩
  refine ⟨c, q, r, s, ⟨centuries, fours, years, ?_, ?_⟩, ?_⟩
  · omega
  · omega
  · omega

theorem EraDay.yearOfEra {c q r s n : Int} (h : EraDay c q r s)
    (same : n = 36524 * c + 1461 * q + 365 * r + s) :
    (n - n / 1460 + n / 36524 - n / 146096) / 365 = 100 * c + 4 * q + r := by
  obtain ⟨centuries, fours, years, days, leap⟩ := h
  -- `n / 1460` counts four years without their leap days, so late in a century it may be ahead by
  -- one.
  obtain ⟨e, ahead, early, late⟩ : ∃ e, n / 1460 = 25 * c + q + e ∧ (e = 0 ∨ e = 1 ∧ 0 < s) ∧
      (s = 365 → e = 1) := by
    have split : n = 1460 * (25 * c + q) + (24 * c + q + 365 * r + s) := by omega
    exact ⟨(24 * c + q + 365 * r + s) / 1460, by omega, by omega, by omega⟩
  have hundreds : n / 36524 - n / 146096 = c := by
    by_cases last : n = 146096
    · subst last
      omega
    · have inCentury : 1461 * q + 365 * r + s < 36524 := by omega
      omega
  omega

theorem EraDay.leapDays {c q r s : Int} (h : EraDay c q r s) (era : Int) :
    let year := 400 * era + (100 * c + 4 * q + r)
    year / 4 = 100 * era + 25 * c + q ∧ year / 100 = 4 * era + c ∧ year / 400 = era := by
  obtain ⟨centuries, fours, years, -, -⟩ := h
  omega

theorem EraDay.dayOfYear {c q r s n : Int} (h : EraDay c q r s)
    (same : n = 36524 * c + 1461 * q + 365 * r + s) :
    let year := 100 * c + 4 * q + r
    n - (365 * year + year / 4 - year / 100) = s := by
  obtain ⟨quarter, hundredth, -⟩ := h.leapDays 0
  simp only [Int.mul_zero, Int.zero_add] at quarter hundredth
  simp only [quarter, hundredth]
  omega

/-! ## Years -/

/-- The days before the first of March of a year, up to a constant. -/
def daysBefore (year : Int) : Int := 365 * year + year / 4 - year / 100 + year / 400

theorem daysBefore_eq (year : Int) :
    daysBefore year = daysBefore (year - 1) + if isLeap year then 366 else 365 := by
  by_cases leap : isLeap year = true
  · rw [if_pos leap]
    simp only [isLeap, Bool.and_eq_true, Bool.or_eq_true, beq_iff_eq, bne_iff_ne] at leap
    unfold daysBefore
    omega
  · rw [if_neg leap]
    simp only [isLeap, Bool.and_eq_true, Bool.or_eq_true, beq_iff_eq, bne_iff_ne] at leap
    unfold daysBefore
    omega

/-! ## The Gregorian calendar -/

/-- The rule of leap years: every fourth year is one, but of the years that end a century only every
    fourth. -/
def GregorianLeap (year : Int) : Prop := 4 ∣ year ∧ (100 ∣ year → 400 ∣ year)

instance (year : Int) : Decidable (GregorianLeap year) := inferInstanceAs (Decidable (_ ∧ _))

/-- The days of the twelve months of a year. -/
def monthLengths (year : Int) : List Nat :=
  [31, if GregorianLeap year then 29 else 28, 31, 30, 31, 30, 31, 31, 30, 31, 30, 31]

theorem isLeap_iff (year : Int) : isLeap year = true ↔ GregorianLeap year := by
  simp only [isLeap, GregorianLeap, Bool.and_eq_true, Bool.or_eq_true, beq_iff_eq, bne_iff_ne]
  omega

theorem getElem?_monthLengths (year : Int) {month : Nat} (first : 1 ≤ month) (last : month ≤ 12) :
    (monthLengths year)[month - 1]? = some (daysInMonth year month) := by
  have leap : (if isLeap year = true then 29 else 28) = if GregorianLeap year then 29 else 28 :=
    if_congr (isLeap_iff year) rfl rfl
  interval_cases month
  case «2» => exact congrArg some leap.symm
  all_goals rfl

end Calendar

namespace Date

open Calendar

/-- A day of the Gregorian calendar, reckoned back to before there was one. -/
def Gregorian (d : Date) : Prop :=
  1 ≤ d.month ∧ ∃ days, (monthLengths d.year)[d.month - 1]? = some days ∧ 1 ≤ d.day ∧ d.day ≤ days

/-! ## Days of dates -/

/-- The days of years that start in March add up. -/
theorem dayNumber_eq (d : Date) :
    d.dayNumber =
      daysBefore (if d.month ≤ 2 then d.year - 1 else d.year) +
        monthStart (if d.month ≤ 2 then d.month + 9 else (d.month : Int) - 3) + d.day - 719469 := by
  simp only [dayNumber]
  generalize (if d.month ≤ 2 then d.year - 1 else d.year) = year
  generalize monthStart _ = start
  unfold daysBefore
  omega

theorem dayNumber_day (year : Int) (month day : Nat) :
    (Date.mk year month day).dayNumber = (Date.mk year month 1).dayNumber + day - 1 := by
  rw [dayNumber_eq, dayNumber_eq]
  simp only
  omega

/-- A month begins as many days after the one before it as that one has. -/
theorem dayNumber_nextMonth (year : Int) {month : Nat} (first : 1 ≤ month) (last : month < 12) :
    (Date.mk year (month + 1) 1).dayNumber = (Date.mk year month 1).dayNumber +
      daysInMonth year month := by
  rw [dayNumber_eq, dayNumber_eq]
  have leap := daysBefore_eq year
  interval_cases month
  case «2» =>
    by_cases long : isLeap year = true
    · simp [monthStart, daysInMonth, long] at leap ⊢
      omega
    · simp [monthStart, daysInMonth, long] at leap ⊢
      omega
  all_goals simp [monthStart, daysInMonth]
  all_goals omega

theorem dayNumber_nextYear (year : Int) :
    (Date.mk (year + 1) 1 1).dayNumber = (Date.mk year 12 1).dayNumber + 31 := by
  rw [dayNumber_eq, dayNumber_eq]
  simp [monthStart]
  omega

/-! ## Order -/

theorem dayNumber_month_lt (year : Int) {month later : Nat} (first : 1 ≤ month) (lt : month < later)
    (last : later ≤ 12) : (Date.mk year month 1).dayNumber < (Date.mk year later 1).dayNumber := by
  induction later, lt using Nat.le_induction with
  | base =>
      have days : 28 ≤ daysInMonth year month := by
        unfold daysInMonth
        split_ifs <;> decide
      rw [dayNumber_nextMonth year first last]
      omega
  | succ later lt ih =>
      have days : 28 ≤ daysInMonth year later := by
        unfold daysInMonth
        split_ifs <;> decide
      have before := ih (by omega)
      rw [dayNumber_nextMonth year (by omega) last]
      omega

theorem dayNumber_month_le (year : Int) {month later : Nat} (first : 1 ≤ month) (le : month ≤ later)
    (last : later ≤ 12) : (Date.mk year month 1).dayNumber ≤ (Date.mk year later 1).dayNumber := by
  rcases le.lt_or_eq with lt | rfl
  · exact (dayNumber_month_lt year first lt last).le
  · exact le_rfl

theorem dayNumber_year_lt {year later : Int} (lt : year < later) :
    (Date.mk year 1 1).dayNumber < (Date.mk later 1 1).dayNumber := by
  rw [dayNumber_eq, dayNumber_eq]
  simp [daysBefore]
  omega

theorem dayNumber_year_le {year later : Int} (le : year ≤ later) :
    (Date.mk year 1 1).dayNumber ≤ (Date.mk later 1 1).dayNumber := by
  rcases le.lt_or_eq with lt | rfl
  · exact (dayNumber_year_lt lt).le
  · exact le_rfl

/-- A date with a month that there is, and a day that the month has. -/
structure WellFormed (d : Date) : Prop where
  month : 1 ≤ d.month ∧ d.month ≤ 12
  day : 1 ≤ d.day ∧ d.day ≤ daysInMonth d.year d.month

theorem gregorian_iff (d : Date) : d.Gregorian ↔ WellFormed d := by
  constructor
  · rintro ⟨first, days, listed, day⟩
    have last : d.month - 1 < 12 := (List.getElem?_eq_some_iff.mp listed).1
    rw [getElem?_monthLengths d.year first (by omega)] at listed
    exact ⟨⟨first, by omega⟩, Option.some.inj listed ▸ day⟩
  · rintro ⟨⟨first, last⟩, day⟩
    exact ⟨first, _, getElem?_monthLengths d.year first last, day⟩

theorem valid_iff (d : Date) :
    d.valid = true ↔ (firstYear ≤ d.year ∧ d.year ≤ lastYear) ∧ WellFormed d := by
  simp only [valid, Bool.and_eq_true, decide_eq_true_eq]
  constructor
  · rintro ⟨⟨⟨⟨⟨first, last⟩, early⟩, late⟩, begun⟩, ended⟩
    exact ⟨⟨first, last⟩, ⟨early, late⟩, begun, ended⟩
  · rintro ⟨⟨first, last⟩, ⟨early, late⟩, begun, ended⟩
    exact ⟨⟨⟨⟨⟨first, last⟩, early⟩, late⟩, begun⟩, ended⟩

theorem wellFormed_first (year : Int) {m : Nat} (first : 1 ≤ m) (last : m ≤ 12) :
    WellFormed ⟨year, m, 1⟩ := by
  refine ⟨⟨first, last⟩, le_refl 1, ?_⟩
  simp only [daysInMonth]
  split_ifs <;> decide

theorem WellFormed.newYear_le {d : Date} (h : WellFormed d) :
    (Date.mk d.year 1 1).dayNumber ≤ d.dayNumber := by
  obtain ⟨⟨first, last⟩, early, late⟩ := h
  have month := dayNumber_month_le d.year le_rfl first last
  have day := dayNumber_day d.year d.month d.day
  change d.dayNumber = _ at day
  omega

theorem WellFormed.lt_newYear {d : Date} (h : WellFormed d) :
    d.dayNumber < (Date.mk (d.year + 1) 1 1).dayNumber := by
  obtain ⟨⟨first, last⟩, early, late⟩ := h
  have month : (Date.mk d.year d.month 1).dayNumber + daysInMonth d.year d.month ≤
      (Date.mk (d.year + 1) 1 1).dayNumber := by
    rw [dayNumber_nextYear]
    rcases last.lt_or_eq with lt | same
    · have later := dayNumber_month_le d.year (Nat.le_add_left 1 d.month) lt le_rfl
      rw [← dayNumber_nextMonth d.year first lt]
      omega
    · rw [same]
      exact le_rfl
  have day := dayNumber_day d.year d.month d.day
  change d.dayNumber = _ at day
  omega

/-- The year of a day is the one whose days reach to it. -/
theorem WellFormed.year_le_iff {d : Date} (h : WellFormed d) (year : Int) :
    year ≤ d.year ↔ (Date.mk year 1 1).dayNumber ≤ d.dayNumber := by
  constructor
  · intro le
    exact (dayNumber_year_le le).trans h.newYear_le
  · intro reaches
    by_contra later
    have next : (Date.mk (d.year + 1) 1 1).dayNumber ≤ (Date.mk year 1 1).dayNumber :=
      dayNumber_year_le (not_le.mp later)
    have before := h.lt_newYear
    omega

/-! ## The order of dates -/

/-- Dates in the order of the calendar. -/
instance : LT Date where
  lt d e := d.year < e.year ∨ d.year = e.year ∧
    (d.month < e.month ∨ d.month = e.month ∧ d.day < e.day)

theorem lt_def {d e : Date} :
    d < e ↔ d.year < e.year ∨ d.year = e.year ∧
      (d.month < e.month ∨ d.month = e.month ∧ d.day < e.day) :=
  Iff.rfl

theorem lt_or_gt_of_ne {d e : Date} (differ : d ≠ e) : d < e ∨ e < d := by
  obtain ⟨year, month, day⟩ := d
  obtain ⟨year', month', day'⟩ := e
  simp only [ne_eq, Date.mk.injEq, lt_def] at differ ⊢
  omega

/-- The days of a month come before the later months of its year. -/
theorem WellFormed.lt_laterMonth {d : Date} (h : WellFormed d) {later : Nat} (lt : d.month < later)
    (last : later ≤ 12) : d.dayNumber < (Date.mk d.year later 1).dayNumber := by
  obtain ⟨⟨first, -⟩, early, late⟩ := h
  have next := dayNumber_nextMonth d.year first (lt.trans_le last)
  have month := dayNumber_month_le d.year (Nat.le_add_left 1 d.month) lt last
  have day := dayNumber_day d.year d.month d.day
  change d.dayNumber = _ at day
  omega

theorem WellFormed.dayNumber_lt {d e : Date} (hd : WellFormed d) (he : WellFormed e)
    (before : d < e) :
    d.dayNumber < e.dayNumber := by
  have ofD := dayNumber_day d.year d.month d.day
  have ofE := dayNumber_day e.year e.month e.day
  change d.dayNumber = _ at ofD
  change e.dayNumber = _ at ofE
  rcases lt_def.mp before with year | ⟨year, month | ⟨month, day⟩⟩
  · have next : (Date.mk (d.year + 1) 1 1).dayNumber ≤ (Date.mk e.year 1 1).dayNumber :=
      dayNumber_year_le year
    exact hd.lt_newYear.trans_le (next.trans he.newYear_le)
  · have begun := hd.lt_laterMonth month he.month.2
    have started := he.day.1
    rw [year] at begun
    omega
  · rw [year, month] at ofD
    omega

theorem WellFormed.eq_of_dayNumber_eq {d e : Date} (hd : WellFormed d) (he : WellFormed e)
    (same : d.dayNumber = e.dayNumber) : d = e := by
  by_contra differ
  rcases lt_or_gt_of_ne differ with before | after
  · exact absurd same (hd.dayNumber_lt he before).ne
  · exact absurd same (he.dayNumber_lt hd after).ne'

/-! ## Dates of days -/

/-- The parts of a day make its date: its year by the centuries, fours and years, its month and day
    by the days. -/
theorem ofDayNumber_eq (n : Int) : ∃ era c q r s, EraDay c q r s ∧
    n = 146097 * era + (36524 * c + 1461 * q + 365 * r + s) - 719468 ∧
    ofDayNumber n =
      let year := 400 * era + (100 * c + 4 * q + r)
      let month := (5 * s + 2) / 153
      ⟨if month < 10 then year else year + 1, (if month < 10 then month + 3 else month - 9).toNat,
        (s - monthStart month + 1).toNat⟩ := by
  have whole : n = 146097 * ((n + 719468) / 146097) + (n + 719468) % 146097 - 719468 := by omega
  obtain ⟨c, q, r, s, parts, same⟩ :=
    exists_eraDay (n := (n + 719468) % 146097) (by omega) (by omega)
  have yearOfEra := parts.yearOfEra same
  have dayOfYear := parts.dayOfYear same
  rw [same] at whole
  refine ⟨(n + 719468) / 146097, c, q, r, s, parts, whole, ?_⟩
  obtain ⟨first, last⟩ : 0 ≤ (5 * s + 2) / 153 ∧ (5 * s + 2) / 153 ≤ 11 := by
    have days := parts.days
    omega
  simp only [ofDayNumber, yearOfEra, dayOfYear]
  generalize (5 * s + 2) / 153 = month at first last
  by_cases early : month < 10
  · have march : ¬ month + 3 ≤ 2 := by omega
    simp only [early, march, if_true, if_false, Int.mul_comm, Int.add_comm]
  · have january : month - 9 ≤ 2 := by omega
    simp only [early, january, if_true, if_false, Int.mul_comm, Int.add_comm]

theorem dayNumber_ofDayNumber (n : Int) : (ofDayNumber n).dayNumber = n := by
  obtain ⟨era, c, q, r, s, parts, whole, date⟩ := ofDayNumber_eq n
  obtain ⟨quarter, hundredth, fourHundredth⟩ := parts.leapDays era
  obtain ⟨first, last⟩ : 0 ≤ (5 * s + 2) / 153 ∧ (5 * s + 2) / 153 ≤ 11 := by
    have days := parts.days
    omega
  have begun : monthStart ((5 * s + 2) / 153) ≤ s := by
    unfold monthStart
    omega
  rw [dayNumber_eq, date, daysBefore]
  simp only
  generalize (5 * s + 2) / 153 = month at first last begun
  by_cases early : month < 10
  · have march : ¬ (month + 3).toNat ≤ 2 := by omega
    have number : ((month + 3).toNat : Int) - 3 = month := by omega
    simp only [early, march, if_true, if_false, quarter, hundredth, fourHundredth, number]
    omega
  · have january : (month - 9).toNat ≤ 2 := by omega
    have number : ((month - 9).toNat : Int) + 9 = month := by omega
    simp only [early, january, if_true, if_false, number, Int.add_sub_cancel, quarter, hundredth,
      fourHundredth]
    omega

theorem wellFormed_ofDayNumber (n : Int) : WellFormed (ofDayNumber n) := by
  obtain ⟨era, c, q, r, s, parts, -, date⟩ := ofDayNumber_eq n
  rw [date]
  obtain ⟨centuries, fours, years, days, leap⟩ := parts
  -- Only the last day of a year that starts in March may be missing: it is the leap day.
  have leapDay : s = 365 → isLeap (400 * era + (100 * c + 4 * q + r) + 1) = true := by
    intro late
    obtain ⟨rfl, place⟩ := leap late
    simp only [isLeap, Bool.and_eq_true, Bool.or_eq_true, beq_iff_eq, bne_iff_ne]
    omega
  generalize 400 * era + (100 * c + 4 * q + r) = year at leapDay ⊢
  obtain ⟨m, month, first, last, begun, ended⟩ : ∃ m, (5 * s + 2) / 153 = m ∧ 0 ≤ m ∧ m ≤ 11 ∧
      153 * m ≤ 5 * s + 2 ∧ 5 * s + 2 < 153 * m + 153 := ⟨_, rfl, by omega⟩
  simp only [month]
  constructor
  · simp only
    split_ifs <;> omega
  · interval_cases m
    case «11» =>
      by_cases long : isLeap (year + 1) = true
      · simp [monthStart, daysInMonth, long]
        omega
      · have early : s ≠ 365 := fun late => long (leapDay late)
        simp [monthStart, daysInMonth, long]
        omega
    all_goals simp [monthStart, daysInMonth]
    all_goals omega

/-- The day of a date that there is has no other date. -/
theorem WellFormed.ofDayNumber_dayNumber {d : Date} (h : WellFormed d) :
    ofDayNumber d.dayNumber = d :=
  (wellFormed_ofDayNumber _).eq_of_dayNumber_eq h (dayNumber_ofDayNumber _)

/-- The year of a day is the last one that has begun. -/
theorem year_ofDayNumber_le_iff (n year : Int) :
    year ≤ (ofDayNumber n).year ↔ (Date.mk year 1 1).dayNumber ≤ n := by
  have days := (wellFormed_ofDayNumber n).year_le_iff year
  rwa [dayNumber_ofDayNumber] at days

/-! ## Texts of dates -/

theorem integer?_yearText (year : Int) : Numeral.integer? (yearText year) = some year := by
  unfold yearText
  by_cases plain : 0 ≤ year ∧ year ≤ 9999
  · rw [if_pos plain, Numeral.integer?_of_digits fun c member =>
      Decimal.isDigit_of_mem_padded member, Numeral.natural?_padded]
    exact congrArg some (Int.toNat_of_nonneg plain.1)
  · rw [if_neg plain]
    by_cases negative : year < 0
    · have minus : -(year.natAbs : Int) = year := by omega
      rw [if_pos negative, Numeral.integer?, Numeral.natural?_padded]
      exact congrArg some minus
    · have plus : (year.natAbs : Int) = year := by omega
      rw [if_neg negative, Numeral.integer?, Numeral.natural?_padded]
      exact congrArg some plus

theorem four_le_length_yearText (year : Int) : 4 ≤ (yearText year).length := by
  unfold yearText
  split
  · exact Decimal.le_length_padded 4 _
  · exact (Decimal.le_length_padded 4 _).trans (Nat.le_succ _)

/-- A text that gives the year, the month and the day of a date between hyphens, month and day in
    two digits. -/
def WrittenAs (d : Date) (text : String) : Prop :=
  ∃ year month day : List Char, text.toList = year ++ '-' :: month ++ '-' :: day ∧
    (Numeral.integer? year = some d.year ∧ 4 ≤ year.length) ∧
    (Numeral.natural? 10 month = some d.month ∧ month.length = 2) ∧
    Numeral.natural? 10 day = some d.day ∧ day.length = 2

theorem WellFormed.writtenAs_text {d : Date} (h : WellFormed d) : d.WrittenAs d.text := by
  obtain ⟨⟨-, month⟩, -, day⟩ := h
  have days : daysInMonth d.year d.month ≤ 31 := by
    unfold daysInMonth
    split_ifs <;> decide
  refine ⟨yearText d.year, Decimal.padded 2 d.month, Decimal.padded 2 d.day, ?_,
    ⟨integer?_yearText d.year, four_le_length_yearText d.year⟩,
    ⟨Numeral.natural?_padded 2 d.month, ?_⟩,
    Numeral.natural?_padded 2 d.day, ?_⟩
  · rw [text, String.toList_ofList, List.append_assoc, List.cons_append]
  · exact Decimal.length_padded (by decide) (by omega)
  · exact Decimal.length_padded (by decide) (by omega)

end Date

namespace Instant

open Calendar

/-- The year of a moment is the last one that has begun. -/
theorem year_le_iff (t : Instant) (year : Int) :
    year ≤ t.date.year ↔ (Date.mk year 1 1).midnight.seconds ≤ t.seconds := by
  have day : (0 : Int) < secondsPerDay := by decide
  rw [date, Date.year_ofDayNumber_le_iff, Int.le_ediv_iff_mul_le day]
  rfl

theorem date_midnight {d : Date} (wellFormed : d.WellFormed) : d.midnight.date = d := by
  rw [date, Date.midnight, Int.mul_ediv_cancel _ (by decide), wellFormed.ofDayNumber_dayNumber]

/-- The moments of the calendar begin and end with its first and its last day. -/
theorem inRange_midnight {d : Date} (wellFormed : d.WellFormed) (first : firstYear ≤ d.year)
    (last : d.year ≤ lastYear) : d.midnight.inRange = true := by
  have early := (Date.dayNumber_year_le first).trans wellFormed.newYear_le
  have late : d.dayNumber < (Date.mk (lastYear + 1) 1 1).dayNumber :=
    wellFormed.lt_newYear.trans_le (Date.dayNumber_year_le (Int.add_le_add_right last 1))
  have december := Date.dayNumber_day lastYear 12 31
  rw [Date.dayNumber_nextYear] at late
  simp only [Instant.inRange, Date.midnight, Bool.and_eq_true, decide_eq_true_eq,
    Int.mul_ediv_cancel d.dayNumber (show secondsPerDay ≠ 0 by decide)]
  push_cast at december
  omega

/-- A moment in range is in a year that dates may have. -/
theorem year_of_inRange {t : Instant} (inRange : t.inRange = true) :
    firstYear ≤ t.date.year ∧ t.date.year ≤ lastYear := by
  simp only [Instant.inRange, Bool.and_eq_true, decide_eq_true_eq] at inRange
  obtain ⟨early, late⟩ := inRange
  constructor
  · exact (Date.year_ofDayNumber_le_iff _ _).mpr early
  · by_contra later
    have begun := (Date.year_ofDayNumber_le_iff (t.seconds / secondsPerDay) (lastYear + 1)).mp
      (not_le.mp later)
    rw [Date.dayNumber_nextYear] at begun
    have december := Date.dayNumber_day lastYear 12 31
    push_cast at december
    omega

end Instant

end LadderAtlas
