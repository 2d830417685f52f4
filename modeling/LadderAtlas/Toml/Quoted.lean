import LadderAtlas.Json.Basic

/-! # TOML strings

The four ways to quote a text: with escapes or without, in one line or in several. Each reader
starts after the opening quotes and returns the characters of the text and what follows the closing
quotes.
-/

namespace LadderAtlas.Toml

def isControl (c : Char) : Bool := (c.toNat < 0x20 && c != '\t') || c.toNat == 0x7F

def isSpace (c : Char) : Bool := c == ' ' || c == '\t'

/-- The character of a code, if it is the code of a character. -/
def scalar? (code : Nat) : Option Char :=
  if code < 0xD800 || (0xE000 ≤ code && code < 0x110000) then some (Char.ofNat code) else none

def escaped? (ds : List Char) : Option Char := Numeral.natural? 16 ds >>= scalar?

def plainEscape? (c : Char) : Option Char := if c == '/' then none else Json.plainEscape? c

abbrev Reading := List Char × List Char

def basic? : (reversed : List Char) → List Char → Option Reading
  | reversed, '"' :: rest => some (reversed.reverse, rest)
  | reversed, '\\' :: 'u' :: a :: b :: c :: d :: rest => do
    basic? ((← escaped? [a, b, c, d]) :: reversed) rest
  | reversed, '\\' :: 'U' :: a :: b :: c :: d :: e :: f :: g :: h :: rest => do
    basic? ((← escaped? [a, b, c, d, e, f, g, h]) :: reversed) rest
  | reversed, '\\' :: c :: rest => do basic? ((← plainEscape? c) :: reversed) rest
  | reversed, c :: rest => if isControl c then none else basic? (c :: reversed) rest
  | _, [] => none

def literal? : (reversed : List Char) → List Char → Option Reading
  | reversed, c :: rest =>
    if c == '\x27' then some (reversed.reverse, rest)
    else if isControl c then none
    else literal? (c :: reversed) rest
  | _, [] => none

def endsLine (cs : List Char) : Bool :=
  match cs.dropWhile isSpace with
  | '\n' :: _ => true
  | '\r' :: '\n' :: _ => true
  | _ => false

/-- Up to two quotes right before the closing ones belong to the text. -/
def closing (quote : Char) (reversed rest : List Char) : Reading :=
  match rest with
  | a :: b :: more =>
    if a == quote && b == quote then ((quote :: quote :: reversed).reverse, more)
    else if a == quote then ((quote :: reversed).reverse, b :: more)
    else (reversed.reverse, rest)
  | [a] => if a == quote then ((quote :: reversed).reverse, []) else (reversed.reverse, rest)
  | [] => (reversed.reverse, [])

/-- Read a text with escapes in several lines. After a backslash at the end of a line, blanks and
    line ends are skipped up to the next character. -/
def basicLines? : (skipping : Bool) → (reversed : List Char) → List Char → Option Reading
  | _, reversed, '"' :: '"' :: '"' :: rest => some (closing '"' reversed rest)
  | _, reversed, '\\' :: 'u' :: a :: b :: c :: d :: rest => do
    basicLines? false ((← escaped? [a, b, c, d]) :: reversed) rest
  | _, reversed, '\\' :: 'U' :: a :: b :: c :: d :: e :: f :: g :: h :: rest => do
    basicLines? false ((← escaped? [a, b, c, d, e, f, g, h]) :: reversed) rest
  | _, reversed, '\\' :: c :: rest =>
    match plainEscape? c with
    | some x => basicLines? false (x :: reversed) rest
    | none => if endsLine (c :: rest) then basicLines? true reversed rest else none
  | skipping, reversed, '\r' :: '\n' :: rest =>
    basicLines? skipping (if skipping then reversed else '\n' :: reversed) rest
  | skipping, reversed, c :: rest =>
    if skipping && (isSpace c || c == '\n') then basicLines? true reversed rest
    else if isControl c && c != '\n' then none
    else basicLines? false (c :: reversed) rest
  | _, _, [] => none

def literalLines? : (reversed : List Char) → List Char → Option Reading
  | reversed, '\x27' :: '\x27' :: '\x27' :: rest => some (closing '\x27' reversed rest)
  | reversed, '\r' :: '\n' :: rest => literalLines? ('\n' :: reversed) rest
  | reversed, c :: rest =>
    if isControl c && c != '\n' then none else literalLines? (c :: reversed) rest
  | _, [] => none

/-- What follows a line end right at the start. -/
def afterLineEnd : List Char → List Char
  | '\n' :: rest => rest
  | '\r' :: '\n' :: rest => rest
  | rest => rest

end LadderAtlas.Toml
