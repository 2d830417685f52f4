import LadderAtlas.Number.Numeral

/-! # Punycode

Labels of domain names in ASCII. The ASCII characters of a label come first; the others are inserted
in the order of their codes, each by the distance from the insertion before it. Distances are
written in base 36 with digits whose weights adapt to the distances met so far.
-/

namespace LadderAtlas.Punycode

def digitChar (d : Nat) : Char := if d < 26 then Char.ofNat (97 + d) else Char.ofNat (22 + d)

def digitValue? (c : Char) : Option Nat :=
  if 'a' ≤ c && c ≤ 'z' then some (c.toNat - 97)
  else if 'A' ≤ c && c ≤ 'Z' then some (c.toNat - 65)
  else if c.isDigit then some (c.toNat - 22)
  else none

/-- Below this value a digit ends its number; it depends on the place of the digit. -/
def threshold (place bias : Nat) : Nat :=
  if place ≤ bias then 1 else if bias + 26 ≤ place then 26 else place - bias

/-- Divide by 35 while above 455, counting places. -/
def adaptFrom (delta places : Nat) : Nat :=
  if h : 455 < delta then adaptFrom (delta / 35) (places + 36)
  else places + 36 * delta / (delta + 38)
termination_by delta
decreasing_by exact Nat.div_lt_self (by omega) (by omega)

/-- The bias after a distance, with so many characters in place. -/
def adapt (delta count : Nat) (first : Bool) : Nat :=
  let delta := if first then delta / 700 else delta / 2
  adaptFrom (delta + delta / count) 0

def distance (bias place q : Nat) : List Char :=
  let t := threshold place bias
  if h : q < t then [digitChar q]
  else digitChar (t + (q - t) % (36 - t)) :: distance bias (place + 36) ((q - t) / (36 - t))
termination_by q
decreasing_by
  have positive : 0 < threshold place bias := by unfold threshold; split <;> (try split) <;> omega
  calc (q - threshold place bias) / (36 - threshold place bias)
      ≤ q - threshold place bias := Nat.div_le_self _ _
    _ < q := by omega

/-- An encoding that is under way: the digits so far, the distance since the last insertion, the
    bias, and how many characters are in place. -/
structure Progress where
  digits : List Char
  delta : Nat
  bias : Nat
  placed : Nat

/-- Meet a character of the label while characters of the code `code` are inserted. -/
def Progress.meet (basic code : Nat) (p : Progress) (c : Char) : Progress :=
  if c.toNat < code then { p with delta := p.delta + 1 }
  else if c.toNat = code then
    { digits := p.digits ++ distance p.bias 36 p.delta
      delta := 0
      bias := adapt p.delta (p.placed + 1) (p.placed == basic)
      placed := p.placed + 1 }
  else p

/-- Insert the characters of the given codes, which ascend, starting after the code `below`. -/
def insertAll (label : List Char) (basic : Nat) : (below : Nat) → List Nat → Progress → Progress
  | _, [], p => p
  | below, code :: codes, p =>
    let p := { p with delta := p.delta + (code - below) * (p.placed + 1) }
    let p := label.foldl (Progress.meet basic code) p
    insertAll label basic (code + 1) codes { p with delta := p.delta + 1 }

def encode (label : List Char) : List Char :=
  let basic := label.filter fun c => c.toNat < 128
  let codes := ((label.filter fun c => 128 ≤ c.toNat).map Char.toNat).mergeSort.eraseDups
  let p := insertAll label basic.length 128 codes ⟨[], 0, 72, basic.length⟩
  basic ++ (if basic.isEmpty then [] else ['-']) ++ p.digits

/-- Read a distance whose digits so far have the weight `weight`. -/
def distance? (bias : Nat) : (place weight sum : Nat) → List Char → Option (Nat × List Char)
  | _, _, _, [] => none
  | place, weight, sum, c :: rest => do
    let d ← digitValue? c
    let t := threshold place bias
    if d < t then return (sum + d * weight, rest)
    else distance? bias (place + 36) (weight * (36 - t)) (sum + d * weight) rest

/-- Insert what the digits say, at most `bound` characters. -/
def insertFrom? :
    (bound : Nat) → (bias code position : Nat) → (first : Bool) → (label : List Char) →
    List Char → Option (List Char)
  | _, _, _, _, _, label, [] => some label
  | 0, _, _, _, _, _, _ => none
  | bound + 1, bias, code, position, first, label, digits => do
    let (delta, rest) ← distance? bias 36 1 0 digits
    let count := label.length + 1
    let place := position + delta
    let code := code + place / count
    let position := place % count
    if code < 0xD800 || (0xE000 ≤ code && code < 0x110000) then
      insertFrom? bound (adapt delta count first) code (position + 1) false
        (label.take position ++ Char.ofNat code :: label.drop position) rest
    else none

/-- The label of an ASCII form. A hyphen comes after the ASCII characters only where there are
    some. -/
def decode? (form : List Char) : Option (List Char) :=
  let tail := (form.reverse.takeWhile (· != '-')).reverse
  let basic := form.take (form.length - tail.length - 1)
  if basic.isEmpty && tail.length < form.length then none
  else insertFrom? tail.length 72 128 0 true basic tail

end LadderAtlas.Punycode
