import LadderAtlas.Dimension
import LadderAtlas.Json.Decode
import LadderAtlas.Number.Word

/-! # Layouts

A layout says where in the flat array of a snapshot the numbers of a cell stand. Every dimension has
a count of slots and an index for each id; a cell's place is the mixed-radix number of its four
indices, version slowest and race fastest, times the numbers per cell. Sizes and places are machine
words, and a computation that leaves these is `none`.
-/

namespace LadderAtlas

/-- The ids of one dimension and the slots that they index. -/
structure Axis where
  count : Nat
  /-- The known ids in display order. -/
  ids : List Id
  /-- The slot of each id. -/
  indices : Keyed Id Nat
  deriving Repr, DecidableEq

/-- An id for each dimension, naming one cell. -/
abbrev Coordinate := ByDimension Id

/-- Where the cells of a snapshot are. -/
structure Layout where
  cellSize : Nat
  /-- The number of cells as stated with the layout, for display only. -/
  statedCells : Nat
  axes : ByDimension Axis
  deriving Repr, DecidableEq

namespace Axis

/-- The axis on which every id has its position in the list; the last position of a repeated id. -/
def ofIds (ids : List Id) : Axis where
  count := ids.length
  ids := ids
  indices := Keyed.ofList ids.zipIdx

end Axis

namespace Layout

/-- The layout in which each id's slot is its position in the list of its dimension. -/
def ofIds (cellSize : Nat) (ids : ByDimension (List Id)) : Layout where
  cellSize := cellSize
  statedCells := (ids.toList.map List.length).foldl (· * ·) 1
  axes := ByDimension.ofFn fun d => Axis.ofIds (ids.get d)

/-- The layout of lists of ids, where the number of its cells can be stated. -/
def ofIds? [Build] (cellSize : Nat) (ids : ByDimension (List Id)) : Option Layout := do
  let cells ← Word.product? ids.version.length
    [ids.region.length, ids.league.length, ids.race.length]
  return { ofIds cellSize ids with statedCells := cells }

def count (l : Layout) (d : Dimension) : Nat := (l.axes.get d).count

/-- The known ids of a dimension, which stand in where a filter does not list any. -/
def ids (l : Layout) (d : Dimension) : List Id := (l.axes.get d).ids

def index? (l : Layout) (d : Dimension) (id : Id) : Option Nat := (l.axes.get d).indices.get? id

def contains (l : Layout) (d : Dimension) (id : Id) : Bool := (l.index? d id).isSome

/-- How many numbers a snapshot has. -/
def dataLength? [Build] (l : Layout) : Option Nat :=
  Word.product? l.cellSize (Dimension.inOrder.map l.count)

/-- The slots of a cell, `none` where an id has none. -/
def slots? (l : Layout) (c : Coordinate) : Option (ByDimension Nat) :=
  ByDimension.ofFnM? fun d => l.index? d (c.get d)

/-- The mixed-radix number of four slots. -/
def cellNumber? [Build] (l : Layout) (slots : ByDimension Nat) : Option Nat := do
  let versions ← Word.product? slots.version [l.count .region, l.count .league, l.count .race]
  let regions ← Word.product? slots.region [l.count .league, l.count .race]
  let leagues ← Word.product? slots.league [l.count .race]
  Word.sum? versions [regions, leagues, slots.race]

/-- The place of a cell's first number, `none` also where an id has no slot. -/
def offset? [Build] (l : Layout) (c : Coordinate) : Option Nat := do
  Word.product? l.cellSize [← l.cellNumber? (← l.slots? c)]

/-- The numbers of a cell, `none` where they do not lie in the data. -/
def cell? [Build] {α : Type} (l : Layout) (data : Array α) (c : Coordinate) : Option (List α) := do
  let start ← l.offset? c
  let stop ← Word.sum? start [l.cellSize]
  if start ≤ stop ∧ stop ≤ data.size then some (data.extract start stop).toList else none

/-! ## Reading -/

def fieldNames : List String :=
  let each (part : String) := Dimension.inOrder.map fun d => d.singular ++ part
  ["data_size", "data_count"] ++ each "_count" ++ each "_ids" ++ each "_indices"

def ofJson? (j : Json) : Option Layout := do
  let fields ← j.fields? fieldNames
  let axes ← ByDimension.ofFnM? fun d => do
    return {
      count := ← fields.required (d.singular ++ "_count") Json.count?
      ids := ← fields.required (d.singular ++ "_ids") (Json.list? Json.int32?)
      indices := ← fields.required (d.singular ++ "_indices")
        (Json.keyed? Numeral.toInt32? Json.count?) }
  return {
    cellSize := ← fields.required "data_size" Json.count?
    statedCells := ← fields.optional "data_count" Json.count? 0
    axes := axes }

end Layout

end LadderAtlas
