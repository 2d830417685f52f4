import LadderAtlas.Layout
import LadderAtlas.Stats.Error

/-! # Filters and selections

A filter lists ids for some of the dimensions. Resolved against a layout it becomes a selection,
which lists ids for every dimension: the known ones where the filter lists none. A dimension that
the filter leaves out and one for which it lists no id at all are different things, everything and
nothing.
-/

namespace LadderAtlas

/-- The ids listed per dimension, where any list is given. -/
structure Filter where
  listed : ByDimension (Option (List Id))
  deriving Repr, DecidableEq

/-- The ids selected in every dimension. -/
structure Selection where
  chosen : ByDimension (List Id)
  deriving Repr, DecidableEq

namespace Selection

def ids (s : Selection) (d : Dimension) : List Id := s.chosen.get d

/-- The selection with a single id in one dimension. -/
def narrowed (s : Selection) (d : Dimension) (id : Id) : Selection := ⟨s.chosen.set d [id]⟩

def contains (s : Selection) (d : Dimension) (id : Id) : Bool := (s.ids d).contains id

/-- The selected cells, version outermost and race innermost; an id listed twice gives its cells
    twice. -/
def coordinates (s : Selection) : List Coordinate :=
  s.chosen.version.flatMap fun version =>
    s.chosen.region.flatMap fun region =>
      s.chosen.league.flatMap fun league =>
        s.chosen.race.map fun race => ⟨version, region, league, race⟩

end Selection

namespace Filter

/-- The filter that lists nothing and so lets everything through. -/
def empty : Filter := ⟨ByDimension.ofFn fun _ => none⟩

def get? (f : Filter) (d : Dimension) : Option (List Id) := f.listed.get d

def set (f : Filter) (d : Dimension) (ids : List Id) : Filter := ⟨f.listed.set d (some ids)⟩

/-- The first listed id that the layout does not know, dimensions in order. -/
def unknown? (f : Filter) (l : Layout) : Option (Dimension × Id) :=
  Dimension.inOrder.findSome? fun d =>
    ((f.get? d).getD []).find? (fun id => !l.contains d id) |>.map fun id => (d, id)

/-- Refuse a filter that lists an id which the layout does not know. -/
def check (f : Filter) (l : Layout) : Except StatsError Unit :=
  match f.unknown? l with
  | some (d, id) => .error (.unknownId d id)
  | none => .ok ()

/-- The selection that the filter means for a layout. -/
def resolve (f : Filter) (l : Layout) : Selection :=
  ⟨ByDimension.ofFn fun d => (f.get? d).getD (l.ids d)⟩

/-! ## Reading and writing -/

def fieldNames : List String := Dimension.inOrder.map Dimension.plural

/-- The filter that a JSON value is. A list may be missing or null. -/
def ofJson? (j : Json) : Option Filter := do
  let fields ← j.fields? fieldNames
  let listed ← ByDimension.ofFnM? fun d =>
    fields.optional d.plural (Json.nullable? (Json.list? Json.int32?)) none
  return ⟨listed⟩

def parse? (text : String) : Option Filter := Json.parse? text >>= ofJson?

/-- The JSON value of a filter: the lists that are given, dimensions in order. -/
def toJson (f : Filter) : Json :=
  Json.record (Dimension.inOrder.filterMap fun d =>
    (f.get? d).map fun ids => (d.plural, .array (ids.map fun id => Json.ofInt id.toInt)))

def text (f : Filter) : String := f.toJson.render

end Filter

end LadderAtlas
