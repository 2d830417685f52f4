import LadderAtlas.Text.Separated
import LadderAtlas.Url.Domain.Label

/-! # Domain names

A domain name is a sequence of labels with dots between them. `ascii?` brings a name into the form
in which it is looked up: characters are replaced, letters and their accents composed, and labels
that are not in ASCII then are put into a form that is.
-/

namespace LadderAtlas.Domain

def isForbidden (c : Char) : Bool :=
  c.toNat ≤ 0x20 || c.toNat == 0x7F
    || ['%', '#', '/', ':', '<', '>', '?', '@', '[', '\\', ']', '^', '|'].contains c

/-- The characters of a name after all replacements, composed. -/
def normal? (cs : List Char) : Option (List Char) := do
  let name := (← cs.mapM replaced?).flatten
  return if name.all isAscii then name else Text.compose name

/-- Whether no order in a name can be mistaken. Names without letters from right to left are
    safe. -/
def isOrderedName (labels : List Label) : Bool :=
  let directions := labels.map fun l => l.chars.map Direction.ofChar
  labels.all (·.chars.all isAscii) || !directions.any (·.any isBackward) || directions.all isOrdered

/-- The form of a domain name in ASCII. -/
def ascii? (cs : List Char) : Option (List Char) := do
  let name ← normal? cs
  if name.any isForbidden then none
  let labels ← (Text.separated '.' name).mapM Label.ofChars?
  if isOrderedName labels then return (List.intersperse ['.'] (labels.map (·.ascii))).flatten
  else none

end LadderAtlas.Domain
