import LadderAtlas.Layout

/-! # The catalog

The catalog holds what is known about ids before any statistics are loaded: which ids are ranked and
in which order they are shown, their names and keys, and the layout of each stat version.
-/

namespace LadderAtlas

/-- Names, keys and display order of ids, and the layouts by stat version. -/
structure Catalog where
  layouts : Keyed UInt32 Layout
  rankedModes : List Id
  /-- The ids shown in charts and controls, in display order. -/
  ranked : ByDimension (List Id)
  modeNames : Keyed Id String
  names : ByDimension (Keyed Id String)
  modeKeys : Keyed Id String
  keys : ByDimension (Keyed Id String)
  deriving Repr

namespace Catalog

def empty : Catalog where
  layouts := .empty
  rankedModes := []
  ranked := ByDimension.ofFn fun _ => []
  modeNames := .empty
  names := ByDimension.ofFn fun _ => .empty
  modeKeys := .empty
  keys := ByDimension.ofFn fun _ => .empty

def layout? (c : Catalog) (statVersion : UInt32) : Option Layout := c.layouts.get? statVersion

def name? (c : Catalog) (d : Dimension) (id : Id) : Option String := (c.names.get d).get? id

def key? (c : Catalog) (d : Dimension) (id : Id) : Option String := (c.keys.get d).get? id

def modeName? (c : Catalog) (mode : Id) : Option String := c.modeNames.get? mode

def numeral (id : Id) : String := Numeral.text id.toInt

def label (c : Catalog) (d : Dimension) (id : Id) : String := (c.name? d id).getD (numeral id)

/-- What ids are kept for: modes, and then the four dimensions. -/
def subjects : List String := "mode" :: Dimension.inOrder.map Dimension.singular

def fieldNames : List String :=
  let each (part : String) := subjects.map fun subject => subject ++ part
  ["stat"] ++ each "_ranking_ids" ++ each "_name_by_ids" ++ each "_key_by_ids"

def ofJson? (j : Json) : Option Catalog := do
  let fields ← j.fields? fieldNames
  let ranking (subject : String) :=
    fields.optional (subject ++ "_ranking_ids") (Json.list? Json.int32?) []
  let texts (subject part : String) :=
    fields.optional (subject ++ part) (Json.keyed? Numeral.toInt32? Json.text?) .empty
  return {
    layouts := ← fields.optional "stat" (Json.keyed? Numeral.toUInt32? Layout.ofJson?) .empty
    rankedModes := ← ranking "mode"
    ranked := ← ByDimension.ofFnM? fun d => ranking d.singular
    modeNames := ← texts "mode" "_name_by_ids"
    names := ← ByDimension.ofFnM? fun d => texts d.singular "_name_by_ids"
    modeKeys := ← texts "mode" "_key_by_ids"
    keys := ← ByDimension.ofFnM? fun d => texts d.singular "_key_by_ids" }

def parse? (text : String) : Option Catalog := Json.parse? text >>= ofJson?

end Catalog

end LadderAtlas
