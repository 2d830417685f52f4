import LadderAtlas.Text.Composition.Basic
import LadderAtlas.Text.Direction
import LadderAtlas.Text.Joining
import LadderAtlas.Text.Mark
import LadderAtlas.Url.Domain.Replacement
import LadderAtlas.Url.Punycode

/-! # Labels of domain names

A label is what stands between two dots. A label that is not in ASCII has a form that is, and a
label in that form has to be the form of a label. Not every text is a label: marks and invisible
joiners have to have something to act upon, and in a name with letters from right to left no label
may mix directions so that its order could be mistaken.
-/

namespace LadderAtlas.Domain

def isAscii (c : Char) : Bool := c.toNat < 128

/-- What a character of a name becomes: small letters for capitals, nothing where it is passed over,
    and no result where no name has it. -/
def replaced? (c : Char) : Option (List Char) :=
  if isAscii c then some [c.toLower]
  else
    match replacements.find? c.toNat >>= Replacement.codes? c.toNat with
    | some codes => some (codes.map Char.ofNat)
    | none => if allowed.contains c then some [c] else none

def isKept (c : Char) : Bool := replaced? c == some [c]

/-! ## Joiners -/

/-- Asks for letters on its sides not to be joined. -/
def nonJoiner : Char := '\u200c'

/-- Asks for the letters on its sides to be joined. -/
def joiner : Char := '\u200d'

/-- The combining class of the marks that mute a vowel. -/
def mutingClass : Nat := 9

/-- Whether the first character that joining does not pass over has a property. -/
def firstJoining (joins : Char → Bool) (cs : List Char) : Bool :=
  match cs.dropWhile Text.joiningTransparent.contains with
  | c :: _ => joins c
  | [] => false

/-- Whether every joiner has something to act upon: a mark that mutes a vowel before it, or, for the
    one that parts, letters on both sides that would join. The characters before come in reverse. -/
def joinersAct : (before : List Char) → List Char → Bool
  | _, [] => true
  | before, c :: rest =>
    let afterMuting := match before with
      | previous :: _ => decide (Text.combiningClass previous.toNat = mutingClass)
      | [] => false
    let parts := firstJoining Text.joinsNext before && firstJoining Text.joinsPrevious rest
    let acts := !(c == nonJoiner || c == joiner) || afterMuting
      || (c == nonJoiner && !before.isEmpty && parts)
    acts && joinersAct (c :: before) rest

/-! ## Directions -/

def isBackward (d : Direction) : Bool := d == .rightToLeft || d == .arabicDigit

/-- Whether the order of a label cannot be mistaken. It starts with a letter whose direction is that
    of the label; it ends, marks aside, in such a letter or a digit; and letters of the other
    direction, or both kinds of digits, are not in it. -/
def isOrdered : List Direction → Bool
  | [] => true
  | first :: rest =>
    let body := (rest.reverse.dropWhile (· == .mark)).reverse
    let endsIn (ds : List Direction) : Bool := match body.getLast? with
      | some last => ds.contains last
      | none => true
    match first with
    | .leftToRight => !body.any isBackward && endsIn [.leftToRight, .europeanDigit]
    | .rightToLeft =>
      !body.contains .leftToRight && endsIn [.rightToLeft, .europeanDigit, .arabicDigit]
        && !(body.contains .europeanDigit && body.contains .arabicDigit)
    | _ => false

/-! ## Labels -/

/-- A label: the characters that it stands for, and its form in ASCII. -/
structure Label where
  chars : List Char
  ascii : List Char
  deriving Repr, DecidableEq

def lengthLimit : Nat := 1000

/-- How long the form of such a label may be, its mark aside. -/
def formLimit : Nat := 2000

/-- Whether characters that are not all in ASCII are a label, the directions aside. -/
def isLabel (cs : List Char) : Bool :=
  (match cs with
    | first :: _ => !Text.isMark first
    | [] => true) && joinersAct [] cs && cs.length ≤ lengthLimit

def asciiMark : List Char := ['x', 'n', '-', '-']

/-- The label that a form in ASCII stands for, the mark of the form aside. It has to be kept by all
    replacements, and composed. -/
def decoded? (form : List Char) : Option (List Char) :=
  if form.length ≤ formLimit && !form.isEmpty && form.getLast? != some '-' then
    match Punycode.decode? form with
    | some cs => if cs.all isKept && Text.compose cs == cs && isLabel cs then some cs else none
    | none => none
  else none

def Label.ofChars? (cs : List Char) : Option Label :=
  if cs.take 4 = asciiMark then
    if cs.all isAscii then (decoded? (cs.drop 4)).map fun chars => ⟨chars, cs⟩ else none
  else if cs.all isAscii then some ⟨cs, cs⟩
  else if isLabel cs then some ⟨cs, asciiMark ++ Punycode.encode cs⟩
  else none

end LadderAtlas.Domain
