import LadderAtlas.Number.Scalar

/-! # Marks

A drawing is a list of marks in canvas coordinates, which count pixels from the top left corner. A
mark says all about itself, its colours included; nothing that is drawn depends on what was drawn
before.
-/

namespace LadderAtlas

structure Point (α : Type) where
  x : α
  y : α
  deriving Repr, DecidableEq

namespace Point

variable {α : Type} [Scalar α]

/-- The place moved right and down. -/
def offset (p : Point α) (dx dy : α) : Point α := ⟨p.x + dx, p.y + dy⟩

end Point

structure Rect (α : Type) where
  x : α
  y : α
  width : α
  height : α
  deriving Repr, DecidableEq

/-- Colours that run along the line between two places. -/
structure Gradient (α : Type) where
  start : Point α
  finish : Point α
  /-- Fractions of the way and the colours there. -/
  stops : List (α × String)
  deriving Repr, DecidableEq

/-- What a line or an area is painted with. -/
inductive Style (α : Type) where
  | color (color : String)
  | gradient (gradient : Gradient α)
  deriving Repr, DecidableEq

/-- Which side of a text is at its place. -/
inductive Align where
  | left
  | center
  | right
  deriving Repr, DecidableEq

/-- Which height of a text is at its place. -/
inductive Baseline where
  | top
  | middle
  | bottom
  deriving Repr, DecidableEq

/-- A picture by its source, with the size to draw it in. -/
structure Image (α : Type) where
  source : String
  width : α
  height : α
  deriving Repr, DecidableEq

/-- One thing drawn. -/
inductive Mark (α : Type) where
  /-- A filled rectangle, below full `alpha` letting through what is under it. -/
  | rect (area : Rect α) (style : Style α) (alpha : α)
  /-- An open line through points. -/
  | stroke (points : List (Point α)) (style : Style α) (width : α)
  /-- A filled polygon. -/
  | fill (points : List (Point α)) (style : Style α)
  | text (text : String) (place : Point α) (align : Align) (baseline : Baseline) (color : String)
  /-- A picture by its top left corner. -/
  | image (image : Image α) (place : Point α)
  deriving Repr, DecidableEq

namespace Mark

def style? {α : Type} : Mark α → Option (Style α)
  | .rect _ style _ => some style
  | .stroke _ style _ => some style
  | .fill _ style => some style
  | _ => none

def gradient? {α : Type} (m : Mark α) : Option (Gradient α) :=
  match m.style? with
  | some (.gradient g) => some g
  | _ => none

end Mark

end LadderAtlas
