/-! # Double precision numbers as integers

A finite double is `± m · 2 ^ e` for a natural number `m`. This module reads `m` and `e` off the
bits and defines on them what the library needs beyond the four operations: rounding to whole
numbers, clamping to an integer range, and conversion of integers. Everything is exact integer
arithmetic, so each result can be computed by the kernel as well as by the compiled program.
-/

namespace LadderAtlas.Binary64

/-- What the bits of a double stand for. -/
inductive Parts where
  | nan
  | infinite (negative : Bool)
  /-- The number `± mantissa · 2 ^ exponent`. -/
  | finite (negative : Bool) (mantissa : Nat) (exponent : Int)
  deriving Repr, DecidableEq

/-- Read the sign, the mantissa and the exponent off the bits of `x`. -/
def parts (x : Float) : Parts :=
  let bits : Nat := x.toBits.toNat
  let negative := decide (bits >>> 63 = 1)
  let biased : Nat := bits >>> 52 % 0x800
  let fraction : Nat := bits % (1 <<< 52)
  if biased = 2047 then
    if fraction = 0 then .infinite negative else .nan
  else if biased = 0 then
    .finite negative fraction (-1074)
  else
    .finite negative (fraction + 1 <<< 52) ((biased : Int) - 1075)

def ofNat (n : Nat) : Float := (UInt64.ofNat n).toFloat

/-- The double of an integer of magnitude below `2 ^ 64`, to nearest. -/
def ofInt (n : Int) : Float := if 0 ≤ n then ofNat n.toNat else -ofNat (-n).toNat

/-- A whole number with a sign of its own, so that a negative zero can be had. -/
def signed (negative : Bool) (n : Nat) : Float := if negative then -ofNat n else ofNat n

/-- Replace a number with a fractional part by `whole negative mantissa unit`, where the number is
    `± mantissa / unit`; whole numbers, infinities and NaN stay as they are. -/
def toWhole (whole : Bool → Nat → Nat → Nat) (x : Float) : Float :=
  match parts x with
  | .finite negative mantissa exponent =>
    if 0 ≤ exponent then x
    else signed negative (whole negative mantissa (1 <<< (-exponent).toNat))
  | _ => x

/-- Round to the nearest whole number, halves away from zero. -/
def round : Float → Float := toWhole fun _ m unit => (2 * m + unit) / (2 * unit)

def trunc : Float → Float := toWhole fun _ m unit => m / unit

def floor : Float → Float :=
  toWhole fun negative m unit => if negative then (m + (unit - 1)) / unit else m / unit

/-- The integer part as an integer, `none` where there is none. -/
def integerPart? (x : Float) : Option Int :=
  match parts x with
  | .finite negative mantissa exponent =>
    let magnitude :=
      if 0 ≤ exponent then mantissa <<< exponent.toNat else mantissa >>> (-exponent).toNat
    some (if negative then -(magnitude : Int) else magnitude)
  | _ => none

/-- The integer part held between `low` and `high`; infinities go to the bounds and NaN to zero. -/
def clampInt (low high : Int) (x : Float) : Int :=
  match parts x with
  | .nan => 0
  | .infinite negative => if negative then low else high
  | .finite .. => max low (min high ((integerPart? x).getD 0))

end LadderAtlas.Binary64
