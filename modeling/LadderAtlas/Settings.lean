import LadderAtlas.Dimension
import LadderAtlas.Keyed
import LadderAtlas.Number.Numeral
import LadderAtlas.Text.Blank

/-! # Settings

The values of the controls of a chart or table. A control holds a text; where it selects an id, the
text is the id's numeral, with or without blanks around it.
-/

namespace LadderAtlas

/-- The current value of every control, by its name. -/
structure Settings where
  values : Keyed String String
  deriving Repr, DecidableEq

namespace Settings

def empty : Settings := ⟨.empty⟩

def set (s : Settings) (name value : String) : Settings := ⟨s.values.insert name value⟩

def get? (s : Settings) (name : String) : Option String := s.values.get? name

def id? (s : Settings) (name : String) : Option Id := do
  Numeral.int32? (Text.trim (← s.get? name).toList)

/-- The id that a control of a dimension selects, all of them where it selects none. -/
def idOrAll (s : Settings) (name : String) : Id := (s.id? name).getD Id.all

end Settings

end LadderAtlas
