import LadderAtlas.Number.Numeral

/-! # JSON values

A JSON value as it is written: numbers keep their digits and strings their escapes. What a number or
a string stands for is asked of it only where it is used, so a value that is skipped over may hold a
number that no double can reach, or a string that no text can hold.
-/

namespace LadderAtlas.Json

/-- A number as written. The digits of each part are in order, and no part that is present is
    empty. -/
structure Number where
  negative : Bool
  whole : List Char
  fraction : Option (List Char)
  /-- Whether the exponent is negative, and its digits. -/
  exponent : Option (Bool × List Char)
  deriving Repr, DecidableEq

abbrev Body := List Char

end Json

/-- A JSON value. Members keep their order, and a name may come twice. -/
inductive Json where
  | null
  | bool (value : Bool)
  | number (value : Json.Number)
  | string (body : Json.Body)
  | array (items : List Json)
  | object (members : List (Json.Body × Json))

namespace Json

instance : Inhabited Json := ⟨.null⟩

namespace Number

def ofInt (n : Int) : Number := ⟨decide (n < 0), Decimal.digits n.natAbs, none, none⟩

/-- The number that a coefficient times a power of ten is written as: with a point where it has up
    to sixteen digits before it or up to four zeros after it, else with an exponent. -/
def ofDecimal (negative : Bool) (coefficient : Nat) (power : Int) : Number :=
  let ds := Decimal.digits coefficient
  -- how many digits there are before the point
  let place := (ds.length : Int) + power
  if 0 ≤ power ∧ place ≤ 16 then
    ⟨negative, ds ++ List.replicate power.toNat '0', some ['0'], none⟩
  else if 0 < place ∧ place ≤ 16 then
    ⟨negative, ds.take place.toNat, some (ds.drop place.toNat), none⟩
  else if -5 < place ∧ place ≤ 0 then
    ⟨negative, ['0'], some (List.replicate (-place).toNat '0' ++ ds), none⟩
  else
    let fraction := if ds.length = 1 then none else some (ds.drop 1)
    ⟨negative, ds.take 1, fraction, some (decide (place < 1), Decimal.digits (place - 1).natAbs)⟩

/-- The number with the fewest digits that reads back as a finite double. It always shows that it is
    no integer, by a point or by an exponent. -/
def ofDouble? (x : Float) : Option Number :=
  match Binary64.parts x with
  | .finite negative mantissa exponent =>
    if mantissa = 0 then some ⟨negative, ['0'], some ['0'], none⟩
    else
      let (coefficient, power) := Decimal.shortest mantissa exponent
      some (ofDecimal negative coefficient power)
  | _ => none

def chars (n : Number) : List Char :=
  let fraction := match n.fraction with
    | some ds => '.' :: ds
    | none => []
  let exponent := match n.exponent with
    | some (negative, ds) => 'e' :: (if negative then '-' else '+') :: ds
    | none => []
  Decimal.sign n.negative ++ n.whole ++ fraction ++ exponent

/-- The integer that a number without fraction and exponent stands for. A negative zero is none: it
    is told apart from zero, so it counts as a fraction. -/
def integer? (n : Number) : Option Int :=
  match n.fraction, n.exponent with
  | none, none =>
    match Numeral.natural? 10 n.whole with
    | some 0 => if n.negative then none else some 0
    | some magnitude => some (if n.negative then -(magnitude : Int) else magnitude)
    | none => none
  | _, _ => none

/-! ## Reading a double

A number is read as a coefficient of 64 bits and a power of ten: digits are taken while the
coefficient fits and counted afterwards, and the double nearest to the coefficient is scaled by the
power. For the usual numbers, of up to fifteen digits, this is the nearest double.
-/

/-- The limit that a coefficient must stay below. -/
def coefficientLimit : Nat := UInt64.size

/-- Take digits onto a coefficient while it fits; the digits that are left. -/
def take : List Char → Nat → Nat × List Char
  | [], acc => (acc, [])
  | c :: rest, acc =>
    let next := 10 * acc + (c.toNat - 48)
    if next < coefficientLimit then take rest next else (acc, c :: rest)

/-- Multiply or divide by a power of ten, in steps of 308 where the power is further down than that.
    Out of range upwards there is no result. -/
def scale : (steps : Nat) → Float → Int → Option Float
  | 0, x, _ => some x
  | steps + 1, x, power =>
    if power.natAbs ≤ 308 then
      let unit := Float.ofScientific 1 false power.natAbs
      if 0 ≤ power then
        let y := x * unit
        if y.isInf then none else some y
      else some (x / unit)
    else if x == 0 then some x
    else if 0 ≤ power then none
    else scale steps (x / Float.ofScientific 1 false 308) (power + 308)

def powerLimit : Int := 0x7FFF_FFFF

/-- The double that a number stands for, `none` where it is beyond all doubles. -/
def double? (n : Number) : Option Float := do
  let (coefficient, left) := take n.whole 0
  let fraction := n.fraction.getD []
  -- Digits of the fraction count only when all digits before the point fitted.
  let (coefficient, power) :=
    if left.isEmpty then
      let (c, rest) := take fraction coefficient
      (c, -((fraction.length - rest.length : Nat) : Int))
    else
      let (c, rest) := take fraction coefficient
      (c, (left.length : Int) - ((fraction.length - rest.length : Nat) : Int))
  let magnitude ← match n.exponent with
    | none => scaled coefficient power
    | some (negative, ds) =>
      let exponent ← Numeral.natural? 10 ds
      if (exponent : Int) ≤ powerLimit then
        let power := if negative then power - exponent else power + exponent
        scaled coefficient (max (-powerLimit - 1) (min powerLimit power))
      else if coefficient != 0 && !negative then none
      else some 0
  return if n.negative then -magnitude else magnitude
where
  /-- The double nearest to the coefficient, scaled by the power of ten. -/
  scaled (coefficient : Nat) (power : Int) : Option Float :=
    scale (power.natAbs / 308 + 1) (Binary64.ofNat coefficient) power

end Number

/-! ## Strings -/

def hex? (c : Char) : Option Nat := Numeral.digit? 16 c

def hex4? (a b c d : Char) : Option Nat := do
  return (((← hex? a) * 16 + (← hex? b)) * 16 + (← hex? c)) * 16 + (← hex? d)

/-- Whether a code unit is the first of a surrogate pair. -/
def isLeading (unit : Nat) : Bool := 0xD800 ≤ unit && unit ≤ 0xDBFF

/-- Whether a code unit is the second of a surrogate pair. -/
def isTrailing (unit : Nat) : Bool := 0xDC00 ≤ unit && unit ≤ 0xDFFF

/-- What the character after a backslash stands for, a code unit aside. -/
def plainEscape? : Char → Option Char
  | '"' => some '"'
  | '\\' => some '\\'
  | '/' => some '/'
  | 'b' => some '\x08'
  | 'f' => some '\x0c'
  | 'n' => some '\n'
  | 'r' => some '\r'
  | 't' => some '\t'
  | _ => none

/-- The characters that a string body stands for; `none` where an escape is not one, or where half a
    surrogate pair stands alone. -/
def decode? : Body → Option (List Char)
  | [] => some []
  | '\\' :: 'u' :: a :: b :: c :: d :: rest => do
    let unit ← hex4? a b c d
    if isLeading unit then
      match rest with
      | '\\' :: 'u' :: a' :: b' :: c' :: d' :: rest' =>
        let second ← hex4? a' b' c' d'
        if isTrailing second then
          let code := 0x10000 + (unit - 0xD800) * 0x400 + (second - 0xDC00)
          return Char.ofNat code :: (← decode? rest')
        else none
      | _ => none
    else if isTrailing unit then none
    else return Char.ofNat unit :: (← decode? rest)
  | '\\' :: c :: rest => do return (← plainEscape? c) :: (← decode? rest)
  | '\\' :: [] => none
  | c :: rest => do return c :: (← decode? rest)

def hexDigit (n : Nat) : Char := (Nat.digitChar n)

/-- The body that a character is written as: quotes, backslashes and control characters escaped. -/
def encodeChar (c : Char) : Body :=
  match c with
  | '"' => ['\\', '"']
  | '\\' => ['\\', '\\']
  | '\x08' => ['\\', 'b']
  | '\x0c' => ['\\', 'f']
  | '\n' => ['\\', 'n']
  | '\r' => ['\\', 'r']
  | '\t' => ['\\', 't']
  | c =>
    if c.toNat < 0x20 then
      ['\\', 'u', '0', '0', hexDigit (c.toNat / 16), hexDigit (c.toNat % 16)]
    else [c]

/-- The body of the string that holds these characters. -/
def encode (cs : List Char) : Body := cs.flatMap encodeChar

def ofText (s : String) : Json := .string (encode s.toList)

def ofInt (n : Int) : Json := .number (Number.ofInt n)

def ofDouble (x : Float) : Json :=
  match Number.ofDouble? x with
  | some n => .number n
  | none => .null

def record (members : List (String × Json)) : Json :=
  .object (members.map fun (name, value) => (encode name.toList, value))

end LadderAtlas.Json
