import LadderAtlas.Number.Binary64

/-! # Decimal texts of numbers

Two ways to write a number in decimal: with a fixed number of places, and with the fewest digits
that read back as the same double. Both work on exact quotients of natural numbers. A tie of the
fixed form goes to the even neighbour, so the text never depends on how the number is represented.
-/

namespace LadderAtlas.Decimal

def digits (n : Nat) : List Char := Nat.toDigits 10 n

/-- `n` written with at least `width` digits. -/
def padded (width n : Nat) : List Char :=
  let ds := digits n
  List.replicate (width - ds.length) '0' ++ ds

/-- The whole number nearest to `numerator / denominator`, a tie going to the even neighbour. -/
def nearestEven (numerator denominator : Nat) : Nat :=
  let q := numerator / denominator
  let rest := 2 * (numerator % denominator)
  if rest < denominator then q
  else if denominator < rest then q + 1
  else if q % 2 = 0 then q
  else q + 1

/-- Put a point `places` digits from the right of the numeral of `n`. -/
def withPoint (places n : Nat) : List Char :=
  if places = 0 then digits n
  else digits (n / Nat.pow 10 places) ++ '.' :: padded places (n % Nat.pow 10 places)

def sign (negative : Bool) : List Char := if negative then ['-'] else []

/-- `± numerator / denominator` with exactly `places` digits after the point. -/
def fixed (places : Nat) (negative : Bool) (numerator denominator : Nat) : String :=
  String.ofList
    (sign negative ++ withPoint places (nearestEven (numerator * Nat.pow 10 places) denominator))

/-- The quotient of natural numbers that is `mantissa · 2 ^ exponent`. -/
def quotient (mantissa : Nat) (exponent : Int) : Nat × Nat :=
  if 0 ≤ exponent then (mantissa <<< exponent.toNat, 1)
  else (mantissa, 1 <<< (-exponent).toNat)

/-- The double `x` with exactly `places` digits after the point; a negative zero keeps its sign. -/
def fixedText (places : Nat) (x : Float) : String :=
  match Binary64.parts x with
  | .nan => "NaN"
  | .infinite negative => if negative then "-inf" else "inf"
  | .finite negative mantissa exponent =>
    let (numerator, denominator) := quotient mantissa exponent
    fixed places negative numerator denominator

/-! ## Fewest digits -/

/-- The interval of reals that read back as one double, in quarters of its last mantissa bit:
    from `low` to `high` around `centre`, the ends counting where `closed` holds. -/
structure Neighbourhood where
  low : Nat
  centre : Nat
  high : Nat
  /-- The power of two that one quarter is worth. -/
  quarter : Int
  closed : Bool

/-- The reals that read back as `mantissa · 2 ^ exponent`. Below a power of two the doubles lie
    twice as close, so the lower half gap is a quarter there; an even mantissa wins both ends. -/
def neighbourhood (mantissa : Nat) (exponent : Int) : Neighbourhood where
  low := if mantissa = 1 <<< 52 && decide (-1074 < exponent) then 4 * mantissa - 1
    else 4 * mantissa - 2
  centre := 4 * mantissa
  high := 4 * mantissa + 2
  quarter := exponent - 2
  closed := mantissa % 2 == 0

/-- Both `candidate · 10 ^ power` and `quarters · 2 ^ quarter`, over a common denominator. -/
def compared (candidate : Nat) (power : Int) (quarters : Nat) (quarter : Int) : Nat × Nat :=
  ((candidate * Nat.pow 10 power.toNat) <<< (-quarter).toNat,
    (quarters * Nat.pow 10 (-power).toNat) <<< quarter.toNat)

/-- Whether `candidate · 10 ^ power` reads back as the double of the neighbourhood. -/
def Neighbourhood.holds (n : Neighbourhood) (candidate : Nat) (power : Int) : Bool :=
  let below := compared candidate power n.low n.quarter
  let above := compared candidate power n.high n.quarter
  if n.closed then decide (below.2 ≤ below.1) && decide (above.1 ≤ above.2)
  else decide (below.2 < below.1) && decide (above.1 < above.2)

/-- The exponent of the leading decimal digit of the positive quotient `numerator / denominator`. -/
def leadingPower (numerator denominator : Nat) : Int :=
  if denominator ≤ numerator then ((digits (numerator / denominator)).length : Int) - 1
  else
    let inverse := (digits (denominator / numerator)).length
    if Nat.pow 10 (inverse - 1) * numerator = denominator then -((inverse : Int) - 1)
    else -(inverse : Int)

/-- `coefficient · 10 ^ power`, where a coefficient of more than `count` digits is `10 ^ count` and
    so has one digit that counts. -/
def carried (count coefficient : Nat) (power : Int) : Nat × Int :=
  if coefficient = Nat.pow 10 count then (1, power + count) else (coefficient, power)

/-- Try numerals of `count` digits, then of one more, `tries` times. Of the two grid points around
    the value the nearer one that reads back is taken, the upper one in a tie. -/
def shortestFrom (n : Neighbourhood) (numerator denominator : Nat) (leading : Int) :
    (tries count : Nat) → Nat × Int
  | 0, count => (numerator / denominator, count)
  | tries + 1, count =>
    let power := leading - (count : Int) + 1
    let top := numerator * Nat.pow 10 (-power).toNat
    let bottom := denominator * Nat.pow 10 power.toNat
    let lower := top / bottom
    let lowerHolds := n.holds lower power
    let upperHolds := n.holds (lower + 1) power
    let upperNearer := decide (bottom ≤ 2 * (top % bottom))
    if upperHolds && (upperNearer || !lowerHolds) then carried count (lower + 1) power
    else if lowerHolds then (lower, power)
    else shortestFrom n numerator denominator leading tries (count + 1)

/-- The fewest digits that read back as the positive double `mantissa · 2 ^ exponent`, with the
    power of ten they are counted in. Seventeen digits always suffice. -/
def shortest (mantissa : Nat) (exponent : Int) : Nat × Int :=
  let (numerator, denominator) := quotient mantissa exponent
  shortestFrom (neighbourhood mantissa exponent) numerator denominator
    (leadingPower numerator denominator) 17 1

/-- `coefficient · 10 ^ power` without an exponent. -/
def positional (coefficient : Nat) (power : Int) : List Char :=
  if 0 ≤ power then digits (coefficient * Nat.pow 10 power.toNat)
  else withPoint (-power).toNat coefficient

/-- The double `x` with the fewest digits that read back, always without an exponent. -/
def shortestText (x : Float) : String :=
  match Binary64.parts x with
  | .nan => "NaN"
  | .infinite negative => if negative then "-inf" else "inf"
  | .finite negative mantissa exponent =>
    if mantissa = 0 then String.ofList (sign negative ++ ['0'])
    else
      let (coefficient, power) := shortest mantissa exponent
      String.ofList (sign negative ++ positional coefficient power)

end LadderAtlas.Decimal
