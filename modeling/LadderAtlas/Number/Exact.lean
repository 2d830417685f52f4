import LadderAtlas.Number.Scalar

/-! # Exact numbers

Rational numbers are a `Scalar` in which no operation rounds. Only the decimal texts and the two
clamps are lossy, and those are the library's own roundings.
-/

namespace LadderAtlas.Exact

/-- The nearest whole number, halves away from zero. -/
def nearest (r : Rat) : Int :=
  if 0 ≤ r then (r + 1 / 2).floor else -((-r + 1 / 2).floor)

def integerPart (r : Rat) : Int := if 0 ≤ r then r.floor else -((-r).floor)

/-- Decimal text with exactly `places` digits after the point. -/
def fixedText (places : Nat) (r : Rat) : String :=
  Decimal.fixed places (decide (r < 0)) r.num.natAbs r.den

/-- The least number of places that writes a number with this denominator exactly, if there is one
    below `limit`. -/
def places? (denominator limit : Nat) : Option Nat :=
  (List.range limit).find? fun p => Nat.pow 10 p % denominator == 0

/-- The terminating decimal of `r`, or its numerator and denominator where there is none. -/
def shortestText (r : Rat) : String :=
  match places? r.den (r.den.log2 + 1) with
  | some places => fixedText places r
  | none => toString r.num ++ "/" ++ toString r.den

end LadderAtlas.Exact

namespace LadderAtlas

instance : Scalar Rat where
  decideLt := inferInstance
  decideLe := inferInstance
  numeral := inferInstance
  ofInt := fun n => (n : Rat)
  abs := fun r => if r < 0 then -r else r
  round := fun r => (Exact.nearest r : Rat)
  floor := fun r => (r.floor : Rat)
  trunc := fun r => (Exact.integerPart r : Rat)
  isNaN := fun _ => false
  isFinite := fun _ => true
  clampInt := fun low high r => max low (min high (Exact.integerPart r))
  fixedText := Exact.fixedText
  shortestText := Exact.shortestText

end LadderAtlas
