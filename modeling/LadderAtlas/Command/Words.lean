/-! # The words of a command line

A word is an option by its long name, maybe with its value behind an equals sign, or it is a short
option, or the mark after which nothing is an option, or it is a plain word. An option that takes a
value and has none attached takes the next word, which has to be a plain one. No option may come
twice.
-/

namespace LadderAtlas.Command

/-- Why a command line is not carried out. -/
inductive Halt where
  | help
  | version
  | misuse
  deriving Repr, DecidableEq

inductive WordForm where
  | long (name : String) (value : Option String)
  | short (letter : Char)
  | mark
  | plain
  deriving Repr, DecidableEq

/-- What a word looks like. A single dash is a plain word. -/
def WordForm.ofWord (word : String) : WordForm :=
  match word.toList with
  | ['-', '-'] => .mark
  | '-' :: '-' :: cs =>
    let name := String.ofList (cs.takeWhile (· != '='))
    match cs.dropWhile (· != '=') with
    | _ :: value => .long name (some (String.ofList value))
    | [] => .long name none
  | '-' :: letter :: _ => .short letter
  | _ => .plain

abbrev Check := String → Bool

structure WordTable where
  /-- The options that take a value, with the checks of their values. -/
  valued : List (String × Check)
  flags : List String
  /-- The checks of the plain words, in order. -/
  plain : List Check
  hasVersion : Bool

/-- The words that are read so far. -/
structure Words where
  /-- Options with their values; flags have an empty one. -/
  options : List (String × String)
  plain : List String
  /-- The option that waits for its value. -/
  pending : Option String
  /-- Whether the mark has been met. -/
  marked : Bool
  deriving Repr

namespace Words

def none : Words := ⟨[], [], .none, false⟩

def has (w : Words) (name : String) : Bool := (w.options.lookup name).isSome

def value? (w : Words) (name : String) : Option String := w.options.lookup name

def give (w : Words) (name value : String) : Except Halt Words :=
  if w.has name then .error .misuse
  else .ok { w with options := w.options ++ [(name, value)], pending := .none }

def giveValue (t : WordTable) (w : Words) (name value : String) : Except Halt Words :=
  match t.valued.lookup name with
  | some check => if check value then w.give name value else .error .misuse
  | .none => .error .misuse

/-- Read a word as a plain one. -/
def addPlain (t : WordTable) (w : Words) (word : String) : Except Halt Words :=
  match t.plain[w.plain.length]? with
  | some check => if check word then .ok { w with plain := w.plain ++ [word] } else .error .misuse
  | .none => .error .misuse

def long (t : WordTable) (w : Words) (name : String) : (value : Option String) → Except Halt Words
  | some value => w.giveValue t name value
  | .none =>
    if name = "help" then .error .help
    else if t.hasVersion && name = "version" then .error .version
    else if t.flags.contains name then w.give name ""
    else if (t.valued.lookup name).isSome then .ok { w with pending := some name }
    else .error .misuse

def short (t : WordTable) (letter : Char) : Halt :=
  if letter = 'h' then .help
  else if t.hasVersion && letter = 'V' then .version
  else .misuse

def read (t : WordTable) (w : Words) (word : String) : Except Halt Words :=
  if w.marked then w.addPlain t word
  else
    match WordForm.ofWord word, w.pending with
    | .plain, some name => w.giveValue t name word
    | .plain, .none => w.addPlain t word
    | _, some _ => .error .misuse
    | .mark, .none => .ok { w with marked := true }
    | .long name value, .none => w.long t name value
    | .short letter, .none => .error (short t letter)

def readAll (t : WordTable) (words : List String) : Except Halt Words := do
  let w ← words.foldlM (read t) none
  if w.pending.isSome then .error .misuse else .ok w

end Words

end LadderAtlas.Command
