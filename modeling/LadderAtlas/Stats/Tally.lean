import LadderAtlas.Number.Scalar

/-! # Tallies

A tally adds up the four numbers of cells. A cell may hold more numbers than four or fewer: the
first four count, and what a cell does not hold is not added.
-/

namespace LadderAtlas

/-- One of the four numbers of a cell. -/
inductive Field where
  | count
  | wins
  | losses
  | points
  deriving Repr, DecidableEq

/-- Sums of the four numbers over some cells. -/
structure Tally (α : Type) where
  count : α
  wins : α
  losses : α
  points : α
  deriving Repr, DecidableEq

namespace Tally

variable {α : Type} [Scalar α]

def zero : Tally α := ⟨0, 0, 0, 0⟩

def get (t : Tally α) : Field → α
  | .count => t.count
  | .wins => t.wins
  | .losses => t.losses
  | .points => t.points

/-- The sums in the order of a cell's numbers. -/
def toList (t : Tally α) : List α := [t.count, t.wins, t.losses, t.points]

def add (t u : Tally α) : Tally α :=
  ⟨t.count + u.count, t.wins + u.wins, t.losses + u.losses, t.points + u.points⟩

/-- Add the numbers of a cell, as many as there are of the first four. -/
def addCell (t : Tally α) : List α → Tally α
  | [] => t
  | [c] => { t with count := t.count + c }
  | [c, w] => { t with count := t.count + c, wins := t.wins + w }
  | [c, w, l] => { t with count := t.count + c, wins := t.wins + w, losses := t.losses + l }
  | c :: w :: l :: p :: _ => ⟨t.count + c, t.wins + w, t.losses + l, t.points + p⟩

end Tally

end LadderAtlas
