import LadderAtlas.Number.Numeral

/-! # The calendar

Dates of the proleptic Gregorian calendar in UTC, counted in days from 1 January 1970, and moments
in seconds and nanoseconds from that midnight. A year starts in March here, so that the leap day is
its last and a month's first day is a linear function of the month; four hundred years make one era
of 146097 days.
-/

namespace LadderAtlas

/-- A calendar date. The year before year 1 is year 0, and the one before it is -1. -/
structure Date where
  year : Int
  month : Nat
  day : Nat
  deriving Repr, DecidableEq

/-- A moment: whole seconds from 1 January 1970, and nanoseconds below one second on top. -/
structure Instant where
  seconds : Int
  nanos : Nat
  deriving Repr, DecidableEq

namespace Calendar

/-- The first and the last year that a date may have. -/
def firstYear : Int := -262143

@[inherit_doc firstYear]
def lastYear : Int := 262142

def secondsPerDay : Int := 86400

def isLeap (year : Int) : Bool := year % 4 == 0 && (year % 100 != 0 || year % 400 == 0)

def daysInMonth (year : Int) (month : Nat) : Nat :=
  if month = 2 then (if isLeap year then 29 else 28)
  else if month = 4 || month = 6 || month = 9 || month = 11 then 30
  else 31

/-- The day of the year that starts in March on which a month begins, March being month 0. -/
def monthStart (month : Int) : Int := (153 * month + 2) / 5

end Calendar

namespace Date

open Calendar

def valid (d : Date) : Bool :=
  decide (firstYear ≤ d.year) && decide (d.year ≤ lastYear)
    && decide (1 ≤ d.month) && decide (d.month ≤ 12)
    && decide (1 ≤ d.day) && decide (d.day ≤ daysInMonth d.year d.month)

/-- Days from 1 January 1970 to the date. -/
def dayNumber (d : Date) : Int :=
  let year := if d.month ≤ 2 then d.year - 1 else d.year
  let month : Int := if d.month ≤ 2 then d.month + 9 else (d.month : Int) - 3
  let era := year / 400
  let yearOfEra := year % 400
  let dayOfYear := monthStart month + d.day - 1
  let dayOfEra := yearOfEra * 365 + yearOfEra / 4 - yearOfEra / 100 + dayOfYear
  era * 146097 + dayOfEra - 719468

/-- The date so many days after 1 January 1970. -/
def ofDayNumber (n : Int) : Date :=
  let shifted := n + 719468
  let era := shifted / 146097
  let dayOfEra := shifted % 146097
  let yearOfEra :=
    (dayOfEra - dayOfEra / 1460 + dayOfEra / 36524 - dayOfEra / 146096) / 365
  let dayOfYear := dayOfEra - (365 * yearOfEra + yearOfEra / 4 - yearOfEra / 100)
  let month := (5 * dayOfYear + 2) / 153
  let day := dayOfYear - monthStart month + 1
  let calendarMonth := if month < 10 then month + 3 else month - 9
  let year := yearOfEra + era * 400
  { year := if calendarMonth ≤ 2 then year + 1 else year
    month := calendarMonth.toNat
    day := day.toNat }

def midnight (d : Date) : Instant := ⟨d.dayNumber * secondsPerDay, 0⟩

/-- A year of four digits or more; a sign stands before a year outside 0 to 9999. -/
def yearText (year : Int) : List Char :=
  if 0 ≤ year ∧ year ≤ 9999 then Decimal.padded 4 year.toNat
  else (if year < 0 then '-' else '+') :: Decimal.padded 4 year.natAbs

def text (d : Date) : String :=
  String.ofList
    (yearText d.year ++ '-' :: Decimal.padded 2 d.month ++ '-' :: Decimal.padded 2 d.day)

end Date

namespace Instant

open Calendar

def date (t : Instant) : Date := Date.ofDayNumber (t.seconds / secondsPerDay)

def inRange (t : Instant) : Bool :=
  let day := t.seconds / secondsPerDay
  decide ((Date.mk firstYear 1 1).dayNumber ≤ day) &&
    decide (day ≤ (Date.mk lastYear 12 31).dayNumber)

/-- The moment of the given seconds and nanoseconds, if it falls on a date in range. -/
def ofSeconds? (seconds : Int) (nanos : Nat) : Option Instant :=
  let t : Instant := ⟨seconds, nanos⟩
  if t.inRange then some t else none

end Instant

end LadderAtlas
