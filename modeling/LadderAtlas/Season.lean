import LadderAtlas.Json.Decode
import LadderAtlas.Number.Scalar

/-! # Seasons

A season colours its stretch of the time axis and groups snapshots. Seasons are kept in order of
their ids, seasons of one id in the order given, and are looked up by id; of several the last one is
found.
-/

namespace LadderAtlas

structure Season where
  id : Int32
  number : Int32
  year : Int32
  start : Int64
  finish : Int64
  color : String
  deriving Repr, DecidableEq

namespace Season

def label (s : Season) : String :=
  Numeral.text s.id.toInt ++ " (" ++ Numeral.text s.number.toInt ++ " - "
    ++ Numeral.text s.year.toInt ++ ")"

/-- Whether the season and the time span from `first` to `last` touch. -/
def overlaps {α : Type} [Scalar α] (s : Season) (first last : α) : Bool :=
  decide (first ≤ Scalar.ofInt s.finish.toInt) && decide (Scalar.ofInt s.start.toInt ≤ last)

def fieldNames : List String := ["id", "number", "year", "start", "end", "color"]

def ofJson? (j : Json) : Option Season := do
  let fields ← j.fields? fieldNames
  return {
    id := ← fields.required "id" Json.int32?
    number := ← fields.required "number" Json.int32?
    year := ← fields.required "year" Json.int32?
    start := ← fields.required "start" Json.int64?
    finish := ← fields.required "end" Json.int64?
    color := ← fields.required "color" Json.text? }

end Season

/-- Seasons in order of their ids, and the place of each id's last season in that order. -/
structure Seasons where
  sorted : List Season
  places : Keyed Int32 Nat
  deriving Repr

namespace Seasons

/-- The order in which seasons are kept. -/
def ordered (a b : Season) : Bool := decide (a.id ≤ b.id)

/-- Put seasons in order; seasons of one id stay in the order given. -/
def ofList (seasons : List Season) : Seasons :=
  let sorted := seasons.mergeSort ordered
  { sorted := sorted
    places := Keyed.ofList (sorted.zipIdx.map fun (season, place) => (season.id, place)) }

def get? (s : Seasons) (id : Int32) : Option Season :=
  match s.places.get? id with
  | some place => s.sorted[place]?
  | none => none

def isEmpty (s : Seasons) : Bool := s.sorted.isEmpty

/-- The label of an id's season, or the id's numeral where there is no such season. -/
def labelOf (s : Seasons) (id : Int32) : String :=
  match s.get? id with
  | some season => season.label
  | none => Numeral.text id.toInt

def ofJson? (j : Json) : Option Seasons := (Json.list? Season.ofJson? j).map ofList

def parse? (text : String) : Option Seasons := Json.parse? text >>= ofJson?

end Seasons

end LadderAtlas
