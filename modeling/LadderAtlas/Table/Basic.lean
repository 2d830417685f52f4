/-! # Tables

Rows of texts under a header. A table is written in columns of equal width, the first one flush left
and the others flush right. A row may be shorter than the header; what goes beyond the header is not
shown. A table with a column that is too wide cannot be written at all.
-/

namespace LadderAtlas

structure Table where
  title : String
  header : List String
  rows : List (List String)
  deriving Repr, DecidableEq

namespace Table

/-- The cell of a row, named by its first cell, under a heading. -/
def cell? (t : Table) (row column : String) : Option String := do
  let position ← t.header.findIdx? (· == column)
  let cells ← t.rows.find? fun cells => cells.head? == some row
  cells[position]?

/-- Widen columns to hold a row. -/
def widen : List Nat → List String → List Nat
  | [], _ => []
  | widths, [] => widths
  | width :: widths, cell :: cells => max width cell.length :: widen widths cells

def widths (t : Table) : List Nat := t.rows.foldl widen (t.header.map String.length)

/-- As many blanks as a cell leaves of its column. -/
def padding (width : Nat) (cell : String) : List Char := List.replicate (width - cell.length) ' '

/-- The cells after the first, each behind a gap of two blanks and flush right. -/
def tailLine : List Nat → List String → List Char
  | width :: widths, cell :: cells =>
    ' ' :: ' ' :: (padding width cell ++ cell.toList ++ tailLine widths cells)
  | _, _ => []

def line : List Nat → List String → List Char
  | width :: widths, cell :: cells => cell.toList ++ padding width cell ++ tailLine widths cells
  | _, _ => []

/-- The lines of the written table: the title, the header and the rows. -/
def lines (t : Table) : List (List Char) :=
  t.title.toList :: (t.header :: t.rows).map (line t.widths)

def text (t : Table) : String := String.ofList (t.lines.flatMap fun l => l ++ ['\n'])

/-- The widest that a column may be: widths to pad to have sixteen bits. -/
def widest : Nat := 0xFFFF

/-- The written table, unless one of its columns is too wide. -/
def text? (t : Table) : Option String := if t.widths.all (· ≤ widest) then some t.text else none

end Table

end LadderAtlas
