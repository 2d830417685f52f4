import LadderAtlas.Graph.Mark

/-! # Canvases

A canvas keeps the marks that can still be seen, and the definitions of the gradients that they are
painted with. Resizing drops them all, and so does an opaque rectangle that covers the whole canvas,
which is how a canvas is cleared.
-/

namespace LadderAtlas

/-- A mark on a canvas. -/
structure Painted (α : Type) where
  mark : Mark α
  /-- The number of definitions before the mark: that of its own gradient, if it has one. -/
  number : Nat
  deriving Repr, DecidableEq

/-- A drawing area of some size, the gradients defined on it, and the marks, the first one
    lowest. -/
structure Canvas (α : Type) where
  width : α
  height : α
  definitions : Array (Gradient α)
  marks : Array (Painted α)
  deriving Repr, DecidableEq

namespace Canvas

variable {α : Type} [Scalar α]

/-- A canvas without extent. -/
def empty : Canvas α := ⟨0, 0, #[], #[]⟩

/-- A fresh canvas of the given size. -/
def resize (width height : α) : Canvas α := ⟨width, height, #[], #[]⟩

def covers (c : Canvas α) (r : Rect α) : Bool :=
  decide (r.x ≤ 0) && decide (r.y ≤ 0) && decide (c.width ≤ r.x + r.width)
    && decide (c.height ≤ r.y + r.height)

/-- Whether a mark hides everything under it. -/
def hiddenBy (c : Canvas α) : Mark α → Bool
  | .rect area _ alpha => c.covers area && decide (1 ≤ alpha)
  | _ => false

/-- Add a mark, and the definition of its gradient, if it has one. -/
def paint (c : Canvas α) (m : Mark α) : Canvas α :=
  { c with
    definitions := c.definitions ++ m.gradient?.toArray
    marks := c.marks.push ⟨m, c.definitions.size⟩ }

/-- Draw a mark on top of the others, or in their place where it hides them all. -/
def draw (c : Canvas α) (m : Mark α) : Canvas α :=
  if c.hiddenBy m then (resize c.width c.height).paint m else c.paint m

def drawAll (c : Canvas α) (ms : List (Mark α)) : Canvas α := ms.foldl draw c

def size (c : Canvas α) : Nat := c.marks.size

/-- The width of a label: every character is seven pixels wide. -/
def textWidth (text : String) : α := Scalar.ofInt text.length * 7

end Canvas

end LadderAtlas
