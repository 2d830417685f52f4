import LadderAtlas.Json.Basic

/-! # Tokens of a JSON text

A JSON text is a sequence of tokens with blanks between them. Both directions are here: `Token.scan`
cuts a text into tokens one character at a time, and `Token.chars` writes a token.
-/

namespace LadderAtlas.Json

/-- The least pieces of a JSON text that mean something. -/
inductive Token where
  | null
  | bool (value : Bool)
  | number (value : Number)
  | string (body : Body)
  | openArray
  | closeArray
  | openObject
  | closeObject
  | comma
  | colon
  deriving Repr, DecidableEq

/-- The characters that may stand between tokens. -/
def isSpace (c : Char) : Bool := c == ' ' || c == '\n' || c == '\r' || c == '\t'

def punctuation? : Char → Option Token
  | '[' => some .openArray
  | ']' => some .closeArray
  | '\x7b' => some .openObject
  | '\x7d' => some .closeObject
  | ',' => some .comma
  | ':' => some .colon
  | _ => none

namespace Number

/-- Digits at the head of `cs`, and what follows them. -/
def spanDigits (cs : List Char) : List Char × List Char :=
  (cs.takeWhile (·.isDigit), cs.dropWhile (·.isDigit))

/-- The exponent that all of `cs` is, if any: a mark, a sign that may be missing, and digits. -/
def exponent? : List Char → Option (Option (Bool × List Char))
  | [] => some none
  | mark :: rest =>
    if mark == 'e' || mark == 'E' then
      let (negative, ds) := match rest with
        | '-' :: ds => (true, ds)
        | '+' :: ds => (false, ds)
        | ds => (false, ds)
      if !ds.isEmpty && ds.all (·.isDigit) then some (some (negative, ds)) else none
    else none

/-- The number that all of `cs` is, if any. Digits before the point start with a zero only where the
    zero is alone. -/
def ofChars? (cs : List Char) : Option Number := do
  let (negative, cs) := match cs with
    | '-' :: rest => (true, rest)
    | rest => (false, rest)
  let (whole, rest) := spanDigits cs
  if whole.isEmpty || (whole.head? == some '0' && whole.length != 1) then none
  match rest with
  | '.' :: rest =>
    let (fraction, rest) := spanDigits rest
    if fraction.isEmpty then none
    return ⟨negative, whole, some fraction, ← exponent? rest⟩
  | rest => return ⟨negative, whole, none, ← exponent? rest⟩

end Number

namespace Token

def nullWord : List Char := ['n', 'u', 'l', 'l']

def trueWord : List Char := ['t', 'r', 'u', 'e']

def falseWord : List Char := ['f', 'a', 'l', 's', 'e']

def ofWord? (word : List Char) : Option Token :=
  if word = nullWord then some .null
  else if word = trueWord then some (.bool true)
  else if word = falseWord then some (.bool false)
  else (Number.ofChars? word).map .number

def isWordChar (c : Char) : Bool := c.isAlphanum || c == '-' || c == '+' || c == '.'

/-- Where a scan stands: between tokens, in a word, or in a string, with the characters of the token
    so far in reverse. In a string, `escape` counts the characters that an escape still needs: none
    outside escapes, five right after the backslash, and then the hexadecimal digits to come. -/
inductive Place where
  | between
  | word (reversed : List Char)
  | string (reversed : List Char) (escape : Nat)
  deriving Repr, DecidableEq

structure Scan where
  place : Place
  found : List Token
  deriving Repr, DecidableEq

/-- Read a character between tokens. -/
def Scan.start (found : List Token) (c : Char) : Option Scan :=
  if isSpace c then some ⟨.between, found⟩
  else if c == '"' then some ⟨.string [] 0, found⟩
  else if isWordChar c then some ⟨.word [c], found⟩
  else (punctuation? c).map fun t => ⟨.between, t :: found⟩

def Scan.step (s : Scan) (c : Char) : Option Scan :=
  match s.place with
  | .between => Scan.start s.found c
  | .word reversed =>
    if isWordChar c then some ⟨.word (c :: reversed), s.found⟩
    else do Scan.start ((← ofWord? reversed.reverse) :: s.found) c
  | .string reversed 0 =>
    if c == '"' then some ⟨.between, .string reversed.reverse :: s.found⟩
    else if c == '\\' then some ⟨.string (c :: reversed) 5, s.found⟩
    else if c.toNat < 0x20 then none
    else some ⟨.string (c :: reversed) 0, s.found⟩
  | .string reversed 5 =>
    if c == 'u' then some ⟨.string (c :: reversed) 4, s.found⟩
    else do
      let _ ← plainEscape? c
      some ⟨.string (c :: reversed) 0, s.found⟩
  | .string reversed (needed + 1) => do
    let _ ← hex? c
    some ⟨.string (c :: reversed) needed, s.found⟩

/-- End a scan: a last word is a token, an open string is none. -/
def Scan.finish (s : Scan) : Option (List Token) :=
  match s.place with
  | .between => some s.found.reverse
  | .word reversed => do return ((← ofWord? reversed.reverse) :: s.found).reverse
  | .string .. => none

def scan (cs : List Char) : Option (List Token) := do
  (← cs.foldlM Scan.step ⟨.between, []⟩).finish

def chars : Token → List Char
  | .null => nullWord
  | .bool true => trueWord
  | .bool false => falseWord
  | .number n => n.chars
  | .string body => '"' :: (body ++ ['"'])
  | .openArray => ['[']
  | .closeArray => [']']
  | .openObject => ['\x7b']
  | .closeObject => ['\x7d']
  | .comma => [',']
  | .colon => [':']

end Token

end LadderAtlas.Json
