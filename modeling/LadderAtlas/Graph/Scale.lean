import LadderAtlas.Number.Scalar

/-! # Scales

A scale maps a range of values to so many pixels. The fraction of the way through the range is taken
first, so both ends of the range come out exact. A range without extent has no scale: its pixels are
no finite numbers at double precision.
-/

namespace LadderAtlas

/-- The values from `start` to `finish` over `length` pixels. -/
structure Scale (α : Type) where
  start : α
  finish : α
  length : α
  deriving Repr, DecidableEq

namespace Scale

variable {α : Type} [Scalar α]

def density (s : Scale α) : α := s.length / (s.finish - s.start)

/-- The pixels from the start of the range to a value. -/
def place (s : Scale α) (value : α) : α := (value - s.start) / (s.finish - s.start) * s.length

/-- The value so many pixels from the start of the range. -/
def valueAt (s : Scale α) (pixels : α) : α := pixels / s.density + s.start

/-- The value at a fraction of the way through the range. -/
def valueAtFraction (s : Scale α) (fraction : α) : α :=
  s.start + fraction * (s.finish - s.start)

def extent (s : Scale α) : α := Scalar.abs (s.finish - s.start)

/-- The largest magnitude at the ends of the range. -/
def largest (s : Scale α) : α := Scalar.max (Scalar.abs s.finish) (Scalar.abs s.start)

end Scale

end LadderAtlas
