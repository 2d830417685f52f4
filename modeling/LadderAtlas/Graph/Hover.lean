import LadderAtlas.Graph.Mark

/-! # Hovering

Points that answer to the mouse, and what is shown beside them.
-/

namespace LadderAtlas

/-- A place of the graph area that answers to the mouse, for the data point of the given index. -/
structure HoverPoint (α : Type) where
  place : Point α
  index : Nat
  deriving Repr, DecidableEq

/-- Labelled values beside a point, and how wide they are when shown. -/
structure Tooltip (α : Type) where
  rows : List (String × String)
  width : α
  deriving Repr, DecidableEq

def Tooltip.get? {α : Type} (t : Tooltip α) (label : String) : Option String :=
  (t.rows.find? fun row => row.1 == label).map (·.2)

namespace HoverPoint

variable {α : Type} [Scalar α]

def squaredDistance (p q : Point α) : α :=
  (p.x - q.x) * (p.x - q.x) + (p.y - q.y) * (p.y - q.y)

/-- A point by its position in a list, and its squared distance. -/
structure Nearest (α : Type) where
  position : Nat
  point : HoverPoint α
  distance : α

/-- Whether a distance is finite and less than that of the nearest point so far. -/
def isNearer (best : Option (Nearest α)) (distance : α) : Bool :=
  match best with
  | some b => decide (distance < b.distance)
  | none => Scalar.isFinite distance

/-- The nearest of the points from position `position` on and the nearest one so far. -/
def nearestFrom (q : Point α) :
    (position : Nat) → (best : Option (Nearest α)) → List (HoverPoint α) → Option (Nearest α)
  | _, best, [] => best
  | position, best, p :: rest =>
    let distance := squaredDistance p.place q
    let best := if isNearer best distance then some ⟨position, p, distance⟩ else best
    nearestFrom q (position + 1) best rest

/-- The first of the points nearest to a place. -/
def nearest? (points : List (HoverPoint α)) (q : Point α) : Option (Nearest α) :=
  nearestFrom q 0 none points

end HoverPoint

end LadderAtlas
