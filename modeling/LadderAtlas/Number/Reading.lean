import LadderAtlas.Number.Numeral

/-! # Reading doubles

A decimal numeral is read as the nearest double. It has digits before the point, after it or both,
and may have a sign and an exponent; the values that are no numbers are written as words, in letters
of either case.
-/

namespace LadderAtlas.Numeral

/-- The double nearest to the digits times a power of ten. Powers that no double comes near are not
    computed. -/
def nearest (negative : Bool) (ds : List Char) (power : Int) : Float :=
  let coefficient := (natural? 10 ds).getD 0
  let magnitude : Float :=
    if coefficient = 0 || (ds.length : Int) + power < -400 then 0
    else if 400 < power then 1 / 0
    else Float.ofScientific coefficient (decide (power < 0)) power.natAbs
  if negative then -magnitude else magnitude

def splitSign : List Char → Bool × List Char
  | '-' :: rest => (true, rest)
  | '+' :: rest => (false, rest)
  | rest => (false, rest)

/-- The power of ten that the end of a numeral stands for; without an exponent it is zero. -/
def power? : List Char → Option Int
  | [] => some 0
  | mark :: rest =>
    if mark == 'e' || mark == 'E' then do
      let (negative, ds) := splitSign rest
      let n ← natural? 10 ds
      return if negative then -(n : Int) else n
    else none

def special? (negative : Bool) (word : List Char) : Option Float :=
  match String.ofList (word.map Char.toLower) with
  | "inf" => some (if negative then -1 / 0 else 1 / 0)
  | "infinity" => some (if negative then -1 / 0 else 1 / 0)
  | "nan" => some (0 / 0)
  | _ => none

def double? (cs : List Char) : Option Float :=
  let (negative, rest) := splitSign cs
  match special? negative rest with
  | some x => some x
  | none => do
    let whole := rest.takeWhile Char.isDigit
    let rest := rest.dropWhile Char.isDigit
    let (fraction, rest) := match rest with
      | '.' :: rest => (rest.takeWhile Char.isDigit, rest.dropWhile Char.isDigit)
      | rest => ([], rest)
    if whole.isEmpty && fraction.isEmpty then none
    else return nearest negative (whole ++ fraction) ((← power? rest) - (fraction.length : Int))

end LadderAtlas.Numeral
