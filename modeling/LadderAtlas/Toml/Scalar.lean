import LadderAtlas.Calendar
import LadderAtlas.Number.Reading
import LadderAtlas.Toml.Value

/-! # TOML scalars

Numbers, truth values and moments are runs of word characters; each kind has a reader that takes the
whole run or refuses it.
-/

namespace LadderAtlas.Toml

def isWordChar (c : Char) : Bool :=
  c.isAlphanum || c == '+' || c == '-' || c == '.' || c == ':' || c == '_'

/-- Digits of a base with single underscores between them; the underscores are dropped. -/
def separated? (isDigit : Char → Bool) : List Char → Option (List Char)
  | [] => none
  | [c] => if isDigit c then some [c] else none
  | c :: '_' :: rest =>
    if isDigit c then (separated? isDigit rest).map (c :: ·) else none
  | c :: rest => if isDigit c then (separated? isDigit rest).map (c :: ·) else none

/-- The value of digits of a base. -/
def based? (base : Nat) (cs : List Char) : Option Nat := do
  Numeral.natural? base (← separated? (fun c => (Numeral.digit? base c).isSome) cs)

/-- Decimal digits that do not start with a zero unless they are a single one. -/
def decimal? (cs : List Char) : Option (List Char) := do
  let ds ← separated? Char.isDigit cs
  if ds.head? == some '0' && ds.length != 1 then none else some ds

def inRange (n : Int) : Bool :=
  decide (-0x8000_0000_0000_0000 ≤ n) && decide (n < 0x8000_0000_0000_0000)

def integer? (word : List Char) : Option Int := do
  let n : Int ← match word with
    | '0' :: 'x' :: ds => (based? 16 ds).map fun n => (n : Int)
    | '0' :: 'o' :: ds => (based? 8 ds).map fun n => (n : Int)
    | '0' :: 'b' :: ds => (based? 2 ds).map fun n => (n : Int)
    | _ => do
      let (negative, rest) := Numeral.splitSign word
      let n ← Numeral.natural? 10 (← decimal? rest)
      some (if negative then -(n : Int) else n)
  if inRange n then some n else none

/-- The exponent that the rest of a word is, zero where nothing is left. -/
def exponent? : List Char → Option Int
  | [] => some 0
  | mark :: rest =>
    if mark == 'e' || mark == 'E' then do
      let (negative, ds) := Numeral.splitSign rest
      let n ← based? 10 ds
      return if negative then -(n : Int) else n
    else none

/-- The double that a word is. Numbers beyond all doubles are refused above, and below they are the
    negative infinity. -/
def float? (word : List Char) : Option Float := do
  let (negative, rest) := Numeral.splitSign word
  if rest = ['i', 'n', 'f'] then return if negative then -1 / 0 else 1 / 0
  if rest = ['n', 'a', 'n'] then return 0 / 0
  let isNumeral (c : Char) : Bool := c.isDigit || c == '_'
  let whole ← decimal? (rest.takeWhile isNumeral)
  let rest := rest.dropWhile isNumeral
  let (fraction, rest) ← match rest with
    | '.' :: rest => do
      some (← separated? Char.isDigit (rest.takeWhile isNumeral), rest.dropWhile isNumeral)
    | mark :: _ => if mark == 'e' || mark == 'E' then some ([], rest) else none
    | [] => none
  let power ← exponent? rest
  let x := Numeral.nearest negative (whole ++ fraction) (power - (fraction.length : Int))
  if x == 1 / 0 then none else some x

/-! ## Moments -/

/-- Two digits and what follows them. -/
def pair? : List Char → Option (Nat × List Char)
  | a :: b :: rest => do return (← Numeral.natural? 10 [a, b], rest)
  | _ => none

def date? (cs : List Char) : Option (List Char) := do
  let year ← Numeral.natural? 10 (cs.take 4)
  match cs.drop 4 with
  | '-' :: rest =>
    let (month, rest) ← pair? rest
    match rest with
    | '-' :: rest =>
      let (day, rest) ← pair? rest
      if cs.length ≥ 10 && (Date.mk year month day).valid then some rest else none
    | _ => none
  | _ => none

/-- A time of the day at the head, and what follows it. -/
def time? (cs : List Char) : Option (List Char) := do
  let (hour, rest) ← pair? cs
  match rest with
  | ':' :: rest =>
    let (minute, rest) ← pair? rest
    match rest with
    | ':' :: rest =>
      let (second, rest) ← pair? rest
      if hour ≤ 23 && minute ≤ 59 && second ≤ 60 then
        match rest with
        | '.' :: rest =>
          if (rest.takeWhile Char.isDigit).isEmpty then none else some (rest.dropWhile Char.isDigit)
        | rest => some rest
      else none
    | _ => none
  | _ => none

/-- Whether the rest of a moment is a distance from universal time, or nothing. -/
def isOffset (cs : List Char) : Bool :=
  match cs with
  | [] => true
  | [c] => c == 'Z' || c == 'z'
  | c :: rest =>
    (c == '+' || c == '-') &&
      match pair? rest with
      | some (hour, ':' :: rest) =>
        match pair? rest with
        | some (minute, []) => hour ≤ 23 && minute ≤ 59
        | _ => false
      | _ => false

def isDate (word : List Char) : Bool := date? word == some []

/-- Whether a word is a date, a time or both. The letter between them is the only one that may be
    given; a blank there makes two words of the moment. -/
def isMoment (word : List Char) : Bool :=
  match date? word with
  | some [] => true
  | some (c :: rest) =>
    (c == 'T' || c == 't') && ((time? rest).map isOffset).getD false
  | none => time? word == some []

def isTimeOfDate (word : List Char) : Bool := ((time? word).map isOffset).getD false

def word? (word : List Char) : Option Value :=
  if word = ['t', 'r', 'u', 'e'] then some (.boolean true)
  else if word = ['f', 'a', 'l', 's', 'e'] then some (.boolean false)
  else if isMoment word then some .moment
  else
    match integer? word with
    | some n => some (.integer n)
    | none => (float? word).map .float

end LadderAtlas.Toml
