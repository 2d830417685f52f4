import LadderAtlas.Number.Numeral

/-! # Tables of code points

What a standard says of characters is said of ranges of their codes. A table holds ranges that
ascend and do not overlap, each with a value, and finds the value of a code by halving. Tables are
written as words: a code or two with a hyphen between them, in hexadecimal, and then the value.
-/

namespace LadderAtlas

/-- Codes from `first` to `last`, and what is said of them. -/
structure CodeRange (α : Type) where
  first : Nat
  last : Nat
  value : α
  deriving Repr

/-- Ranges that ascend and do not overlap. -/
structure CodeTable (α : Type) where
  ranges : Array (CodeRange α)

namespace CodeTable

variable {α : Type}

/-- The range that holds a code, among those from `low` up to `high`. -/
def findBetween? (t : CodeTable α) (code low high : Nat) : Option (CodeRange α) :=
  if low < high then
    match t.ranges[(low + high) / 2]? with
    | some range =>
      if code < range.first then findBetween? t code low ((low + high) / 2)
      else if range.last < code then findBetween? t code ((low + high) / 2 + 1) high
      else some range
    | none => none
  else none
termination_by high - low

def find? (t : CodeTable α) (code : Nat) : Option (CodeRange α) :=
  t.findBetween? code 0 t.ranges.size

def contains (t : CodeTable α) (c : Char) : Bool := (t.find? c.toNat).isSome

/-- The table with the given ranges, in any order. -/
def ofList (ranges : List (CodeRange α)) : CodeTable α :=
  ⟨(ranges.mergeSort fun a b => decide (a.first ≤ b.first)).toArray⟩

/-! ## Reading tables -/

/-- Cut characters into words at blanks and line ends. -/
def words (cs : List Char) : List (List Char) :=
  let parts := cs.foldr (fun c parts =>
    if c == ' ' || c == '\n' then [] :: parts
    else
      match parts with
      | word :: rest => (c :: word) :: rest
      | [] => [[c]]) [[]]
  parts.filter (!List.isEmpty ·)

def isHex (c : Char) : Bool := (Numeral.digit? 16 c).isSome

def code? (word : List Char) : Option (Nat × List Char) :=
  (Numeral.natural? 16 (word.takeWhile isHex)).map fun n => (n, word.dropWhile isHex)

def range? (value? : List Char → Option α) (word : List Char) : Option (CodeRange α) := do
  let (first, rest) ← code? word
  let (last, rest) ← match rest with
    | '-' :: rest => code? rest
    | rest => some (first, rest)
  return ⟨first, last, ← value? rest⟩

def read (value? : List Char → Option α) (text : String) : CodeTable α :=
  ⟨((words text.toList).filterMap (range? value?)).toArray⟩

def readSet (text : String) : CodeTable Unit :=
  read (fun rest => if rest.isEmpty then some () else none) text

end CodeTable

end LadderAtlas
