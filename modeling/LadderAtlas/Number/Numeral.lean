import LadderAtlas.Number.Decimal

/-! # Integer numerals

Integers are written in decimal with a minus sign where negative, and read back from ASCII digits
with an optional sign. A reader of a fixed width refuses what does not fit instead of wrapping.
-/

namespace LadderAtlas.Numeral

def chars (n : Int) : List Char := Decimal.sign (decide (n < 0)) ++ Decimal.digits n.natAbs

def text (n : Int) : String := String.ofList (chars n)

/-- The value of a digit in the given base, letters standing for ten and more. -/
def digit? (base : Nat) (c : Char) : Option Nat :=
  let value? : Option Nat :=
    if c.isDigit then some (c.toNat - 48)
    else if 'a' ≤ c && c ≤ 'z' then some (c.toNat - 87)
    else if 'A' ≤ c && c ≤ 'Z' then some (c.toNat - 55)
    else none
  value?.filter (· < base)

/-- Read digits of the given base onto the number read so far. -/
def readFrom (base : Nat) : List Char → Nat → Option Nat
  | [], acc => some acc
  | c :: rest, acc => do readFrom base rest (base * acc + (← digit? base c))

/-- A natural number in the given base, of one digit or more. -/
def natural? (base : Nat) (cs : List Char) : Option Nat :=
  if cs.isEmpty then none else readFrom base cs 0

/-- An integer with an optional sign, of one digit or more. -/
def integer? : List Char → Option Int
  | '-' :: ds => (natural? 10 ds).map fun n => -(n : Int)
  | '+' :: ds => (natural? 10 ds).map fun n => (n : Int)
  | ds => (natural? 10 ds).map fun n => (n : Int)

/-- An unsigned number with an optional plus sign. -/
def unsigned? : List Char → Option Nat
  | '+' :: ds => natural? 10 ds
  | ds => natural? 10 ds

def toInt32? (n : Int) : Option Int32 :=
  if -0x8000_0000 ≤ n ∧ n < 0x8000_0000 then some (Int32.ofInt n) else none

def toInt64? (n : Int) : Option Int64 :=
  if -0x8000_0000_0000_0000 ≤ n ∧ n < 0x8000_0000_0000_0000 then some (Int64.ofInt n) else none

def toUInt32? (n : Int) : Option UInt32 :=
  if 0 ≤ n ∧ n < 0x1_0000_0000 then some (UInt32.ofNat n.toNat) else none

def toCount? (n : Int) : Option Nat :=
  if 0 ≤ n ∧ n < 0x1_0000_0000_0000_0000 then some n.toNat else none

def int32? (cs : List Char) : Option Int32 := integer? cs >>= toInt32?

def int64? (cs : List Char) : Option Int64 := integer? cs >>= toInt64?

end LadderAtlas.Numeral
