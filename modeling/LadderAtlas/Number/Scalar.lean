import LadderAtlas.Number.Binary64
import LadderAtlas.Number.Decimal

/-! # The numbers a chart is computed with

Every sum, share, pixel and label is computed over a `Scalar`. The program runs at double precision,
where each operation rounds and the order of operations shows; the same definitions make sense over
any other numbers that offer these operations, exact ones in particular.
-/

namespace LadderAtlas

/-- Numbers with the four operations, a comparison that may be partial, rounding, and decimal
    texts. -/
class Scalar (α : Type) extends
    Add α, Sub α, Mul α, Div α, Neg α, LT α, LE α, BEq α, OfScientific α where
  decideLt : ∀ a b : α, Decidable (a < b)
  decideLe : ∀ a b : α, Decidable (a ≤ b)
  numeral : ∀ n : Nat, OfNat α n
  /-- The number nearest to an integer of 64 bits. -/
  ofInt : Int → α
  abs : α → α
  round : α → α
  floor : α → α
  trunc : α → α
  isNaN : α → Bool
  isFinite : α → Bool
  /-- The integer part held between two bounds; what is no number counts as zero. -/
  clampInt : (low high : Int) → α → Int
  /-- Decimal text with exactly so many places. -/
  fixedText : (places : Nat) → α → String
  /-- Decimal text with the fewest digits that read back. -/
  shortestText : α → String

attribute [reducible, instance] Scalar.decideLt Scalar.decideLe Scalar.numeral

instance : Scalar Float where
  decideLt := inferInstance
  decideLe := inferInstance
  numeral := inferInstance
  ofInt := Binary64.ofInt
  abs := Float.abs
  round := Binary64.round
  floor := Binary64.floor
  trunc := Binary64.trunc
  isNaN := Float.isNaN
  isFinite := Float.isFinite
  clampInt := Binary64.clampInt
  fixedText := Decimal.fixedText
  shortestText := Decimal.shortestText

namespace Scalar

variable {α : Type} [Scalar α]

/-- The larger of two numbers; what is no number gives way to the other. -/
def max (a b : α) : α := if isNaN a then b else if a < b then b else a

/-- The smaller of two numbers; what is no number gives way to the other. -/
def min (a b : α) : α := if isNaN a then b else if b < a then b else a

/-- Hold `value` between `low` and `high`, `low` winning where the bounds cross. -/
def clamp (low value high : α) : α := max (min value high) low

/-- The integer part as a signed integer of 64 bits. -/
def toInt64 (x : α) : Int := clampInt (-0x8000_0000_0000_0000) 0x7FFF_FFFF_FFFF_FFFF x

/-- The whole number nearest to `x`, held in 64 bits. -/
def nearestInt64 (x : α) : Int := toInt64 (round x)

end Scalar

end LadderAtlas
