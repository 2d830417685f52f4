import LadderAtlas.Toml.Quoted
import LadderAtlas.Toml.Scalar

/-! # TOML documents

A document is a sequence of lines, each empty, a header or a key with its value; values may go on
over several lines. `Toml.parse?` reads a document into the entries of its root table. The readers
below take characters off the front and return what follows. Where a reader calls itself, a number
bounds how often; it is computed from the length of the text, so it never runs out first.
-/

namespace LadderAtlas.Toml

def skipSpaces (cs : List Char) : List Char := cs.dropWhile isSpace

/-- Skip blanks, line ends and comments. -/
def skipLines? : (inComment : Bool) → List Char → Option (List Char)
  | _, [] => some []
  | _, '\r' :: '\n' :: rest => skipLines? false rest
  | inComment, c :: rest =>
    if c == '\n' then skipLines? false rest
    else if inComment then (if isControl c then none else skipLines? true rest)
    else if isSpace c then skipLines? false rest
    else if c == '#' then skipLines? true rest
    else some (c :: rest)

/-- End a line: blanks and a comment may come before the line end or the end of the text. -/
def endLine? : (inComment : Bool) → List Char → Option (List Char)
  | _, [] => some []
  | _, '\r' :: '\n' :: rest => some rest
  | inComment, c :: rest =>
    if c == '\n' then some rest
    else if inComment then (if isControl c then none else endLine? true rest)
    else if isSpace c then endLine? false rest
    else if c == '#' then endLine? true rest
    else none

def isKeyChar (c : Char) : Bool := c.isAlphanum || c == '_' || c == '-'

def keyPart? : List Char → Option (String × List Char)
  | '"' :: rest => (basic? [] rest).map fun (text, rest) => (String.ofList text, rest)
  | cs =>
    match cs with
    | '\x27' :: rest => (literal? [] rest).map fun (text, rest) => (String.ofList text, rest)
    | _ =>
      let name := cs.takeWhile isKeyChar
      if name.isEmpty then none else some (String.ofList name, cs.dropWhile isKeyChar)

/-- How deep arrays and inline tables may be nested together, and how many parts a key may have. -/
def depthLimit : Nat := 79

/-- A key: the parts before the last dot, and the last part. -/
structure Key where
  path : List String
  last : String

/-- Read a dotted key of at most `bound` parts after those in `path`, blanks around dots allowed. -/
def keyFrom? : (bound : Nat) → (path : List String) → List Char → Option (Key × List Char)
  | 0, _, _ => none
  | bound + 1, path, cs => do
    let (part, rest) ← keyPart? (skipSpaces cs)
    match skipSpaces rest with
    | '.' :: rest => keyFrom? bound (path ++ [part]) rest
    | rest => return (⟨path, part⟩, rest)

def key? (cs : List Char) : Option (Key × List Char) := keyFrom? depthLimit [] cs

/-- Read a word; a date may be followed by a blank and a time. -/
def wordValue? (cs : List Char) : Option (Value × List Char) :=
  let word := cs.takeWhile isWordChar
  let rest := cs.dropWhile isWordChar
  match rest with
  | ' ' :: more =>
    if isDate word && isTimeOfDate (more.takeWhile isWordChar) then
      some (.moment, more.dropWhile isWordChar)
    else (word? word).map (·, rest)
  | _ => (word? word).map (·, rest)

def textValue? (reading : Option Reading) : Option (Value × List Char) :=
  reading.map fun (text, rest) => (.string (String.ofList text), rest)

mutual

def value? : (bound : Nat) → (depth : Nat) → List Char → Option (Value × List Char)
  | 0, _, _ => none
  | bound + 1, depth, cs =>
    match cs with
    | '"' :: '"' :: '"' :: rest => textValue? (basicLines? false [] (afterLineEnd rest))
    | '"' :: rest => textValue? (basic? [] rest)
    | '\x27' :: '\x27' :: '\x27' :: rest => textValue? (literalLines? [] (afterLineEnd rest))
    | '\x27' :: rest => textValue? (literal? [] rest)
    | '[' :: rest => if depth < depthLimit then items? bound (depth + 1) [] rest else none
    | '\x7b' :: rest =>
      if depth < depthLimit then
        match skipSpaces rest with
        | '\x7d' :: rest => some (.table .inline [], rest)
        | rest => pairs? bound (depth + 1) [] rest
      else none
    | cs => wordValue? cs

def items? : (bound : Nat) → (depth : Nat) → (reversed : List Value) → List Char →
    Option (Value × List Char)
  | 0, _, _, _ => none
  | bound + 1, depth, reversed, cs => do
    match ← skipLines? false cs with
    | ']' :: rest => return (.array reversed.reverse, rest)
    | cs =>
      let (v, rest) ← value? bound depth cs
      match ← skipLines? false rest with
      | ',' :: rest => items? bound depth (v :: reversed) rest
      | ']' :: rest => return (.array (v :: reversed).reverse, rest)
      | _ => none

def pairs? : (bound : Nat) → (depth : Nat) → Entries → List Char → Option (Value × List Char)
  | 0, _, _, _ => none
  | bound + 1, depth, entries, cs => do
    let (k, rest) ← key? cs
    match rest with
    | '=' :: rest =>
      let (v, rest) ← value? bound depth (skipSpaces rest)
      let entries ← entries.addDotted k.last v k.path
      match skipSpaces rest with
      | ',' :: rest => pairs? bound depth entries rest
      | '\x7d' :: rest => return (.table .inline entries, rest)
      | _ => none
    | _ => none

end

structure Document where
  root : Entries
  current : List String

namespace Document

/-- Read a header up to its closing brackets, which are `count` many. -/
def header? (d : Document) (count : Nat) (cs : List Char) : Option (Document × List Char) := do
  let (k, rest) ← key? cs
  let openLast := if count = 1 then Entries.openTable k.last else Entries.openNext k.last
  if rest.take count = List.replicate count ']' then
    return (⟨← d.root.within openLast k.path, k.path ++ [k.last]⟩, rest.drop count)
  else none

def entry? (d : Document) (cs : List Char) : Option (Document × List Char) := do
  let (k, rest) ← key? cs
  match rest with
  | '=' :: rest =>
    let cs := skipSpaces rest
    let (v, rest) ← value? (2 * cs.length + 2) 0 cs
    let root ← d.root.within (fun entries => entries.addDotted k.last v k.path) d.current
    return (⟨root, d.current⟩, rest)
  | _ => none

def lines? : (bound : Nat) → Document → List Char → Option Document
  | 0, _, _ => none
  | bound + 1, d, cs => do
    match ← skipLines? false cs with
    | [] => return d
    | '[' :: '[' :: rest =>
      let (d, rest) ← d.header? 2 rest
      lines? bound d (← endLine? false rest)
    | '[' :: rest =>
      let (d, rest) ← d.header? 1 rest
      lines? bound d (← endLine? false rest)
    | cs =>
      let (d, rest) ← d.entry? cs
      lines? bound d (← endLine? false rest)

end Document

/-- The root table of a document. A byte order mark at its start does not count. -/
def parse? (text : String) : Option Value := do
  let cs := match text.toList with
    | c :: rest => if c.toNat = 0xFEFF then rest else c :: rest
    | [] => []
  let d ← Document.lines? (cs.length + 1) ⟨[], []⟩ cs
  return .table .header d.root

end LadderAtlas.Toml
