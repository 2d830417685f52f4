import LadderAtlas.Calendar
import LadderAtlas.Catalog
import LadderAtlas.Number.Scalar

/-! # Numbers and dates in tables and tooltips

Counts are rounded and written with a blank before every third digit from the right, shares with two
decimals in parentheses, times as calendar dates.
-/

namespace LadderAtlas.Format

variable {α : Type} [Scalar α]

/-- Put a blank in front of every third character from the end, but not at the very front. -/
def grouped : List Char → List Char
  | [] => []
  | c :: rest =>
    if rest.length % 3 = 0 && !rest.isEmpty then c :: ' ' :: grouped rest else c :: grouped rest

/-- An integer with its digits in groups of three. -/
def groupedInt (n : Int) : List Char :=
  Decimal.sign (decide (n < 0)) ++ grouped (Decimal.digits n.natAbs)

/-- A number rounded to an integer, digits in groups of three. -/
def count (value : α) : String := String.ofList (groupedInt (Scalar.nearestInt64 value))

/-- The percentage that `part` is of `total`, zero of an empty total. -/
def share (part total : α) : α := if total == 0 then 0 else part * 100 / total

/-- The percentage that `part` is of `total`, in parentheses. -/
def percent (part total : α) : String := "(" ++ Scalar.fixedText 2 (share part total) ++ "%)"

/-- A count with its share of a total. -/
def countOf (part total : α) : String := count part ++ " " ++ percent part total

/-- The date of a time, or the bare number where the calendar does not reach. -/
def date (seconds : Int64) : String :=
  match Instant.ofSeconds? seconds.toInt 0 with
  | some t => t.date.text
  | none => Numeral.text seconds.toInt

/-- The line colour of a race. -/
def raceColor (race : Id) : String :=
  if race = Id.unknown then "#666666"
  else if race = 0 then "#704898"
  else if race = 1 then "#fff080"
  else if race = 2 then "#c94118"
  else if race = 3 then "#a0ebff"
  else "#ffffff"

end LadderAtlas.Format
