import LadderAtlas.Calendar
import LadderAtlas.Graph.Scale

/-! # Viewports

What part of the data the graph area shows: a stretch of time from left to right, and a range of
counts or percentages from the bottom to the top. Rows of pixels count from the top, so a value goes
down by what its scale leaves of the height.
-/

namespace LadderAtlas

/-- The scales of the two axes. -/
structure Viewport (α : Type) where
  /-- Seconds from left to right. -/
  across : Scale α
  /-- Values from the bottom to the top. -/
  upward : Scale α
  deriving Repr

namespace Viewport

variable {α : Type} [Scalar α]

def column (v : Viewport α) (value : α) : α := v.across.place value

def row (v : Viewport α) (value : α) : α := v.upward.length - v.upward.place value

def columnOf (v : Viewport α) (t : Instant) : α :=
  v.column (Scalar.ofInt t.seconds + Scalar.ofInt t.nanos * 1e-9)

/-- The column of midnight at the start of a date, if there is such a date. -/
def columnOfDate? (v : Viewport α) (d : Date) : Option α :=
  if d.valid then some (v.columnOf d.midnight) else none

/-- The column of the first day of a month, month 13 being January of the next year. -/
def columnOfMonth? (v : Viewport α) (year : Int) (month : Nat) : Option α :=
  if 12 < month then v.columnOfDate? ⟨year + 1, month - 12, 1⟩
  else v.columnOfDate? ⟨year, month, 1⟩

/-- The nanoseconds of a part of a second, always below one second. -/
def nanosOf (part : α) : Nat :=
  Nat.min (Scalar.clampInt 0 0xFFFF_FFFF (part * 1e9)).toNat 999999999

/-- The moment at a column, if the calendar reaches that far. -/
def instantAt? (v : Viewport α) (column : α) : Option Instant :=
  let seconds := v.across.valueAt column
  if Scalar.isFinite seconds then
    let whole := Scalar.floor seconds
    Instant.ofSeconds? (Scalar.toInt64 whole) (nanosOf (seconds - whole))
  else none

end Viewport

end LadderAtlas
