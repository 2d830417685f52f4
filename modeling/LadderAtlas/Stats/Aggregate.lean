import LadderAtlas.Stats.Filter
import LadderAtlas.Stats.Tally
import LadderAtlas.Record

/-! # Aggregates

A selection of cells is summed directly, or broken out by some dimensions into a tree with a total
at every node. The tree over a grouping has one level per dimension; the children of a node belong
to the ids that the selection lists for the level's dimension, each narrowed to its id.
-/

namespace LadderAtlas

/-- Sums broken out by the ids of some dimensions. -/
inductive AggregateTree (α : Type) where
  /-- The sum of the cells that are left. -/
  | leaf (total : Tally α)
  /-- A child for each id in the order of the selection, and the sum of the children's totals. An id
      listed twice has the same child twice. -/
  | branch (children : List (Id × AggregateTree α)) (total : Tally α)

namespace AggregateTree

variable {α : Type} [Scalar α]

def total : AggregateTree α → Tally α
  | .leaf t => t
  | .branch _ t => t

def children : AggregateTree α → List (Id × AggregateTree α)
  | .leaf _ => []
  | .branch cs _ => cs

def child? (t : AggregateTree α) (id : Id) : Option (AggregateTree α) := Keyed.find id t.children

def isLeaf : AggregateTree α → Bool
  | .leaf _ => true
  | .branch .. => false

def descend? (t : AggregateTree α) : List Id → Option (AggregateTree α)
  | [] => some t
  | id :: path => do (← t.child? id).descend? path

end AggregateTree

variable {α : Type} [Scalar α]

/-- Add a cell of `data` to a tally, `none` where the cell has no place. -/
def addCellAt [Build] (l : Layout) (data : Array α) (t : Tally α) (c : Coordinate) :
    Option (Tally α) :=
  (l.cell? data c).map t.addCell

/-- The sum of all selected cells, taken in their order; `none` where a cell has no place. -/
def sumCells [Build] (l : Layout) (data : Array α) (s : Selection) : Option (Tally α) :=
  s.coordinates.foldlM (addCellAt l data) Tally.zero

/-- The selected cells broken out by `groupBy`, the first dimension outermost; `none` where a cell
    has no place. -/
def aggregate [Build] (l : Layout) (data : Array α) (s : Selection) :
    (groupBy : List Dimension) → Option (AggregateTree α)
  | [] => (sumCells l data s).map .leaf
  | d :: rest => do
    let children ← (s.ids d).mapM fun id => do
      return (id, ← aggregate l data (s.narrowed d id) rest)
    return .branch children (children.foldl (fun t c => t.add c.2.total) Tally.zero)

/-- An aggregate together with the selection and the grouping that it is of. -/
structure Aggregate (α : Type) where
  selection : Selection
  groupBy : List Dimension
  root : AggregateTree α

namespace Aggregate

/-- Walk down a path whose ids belong to the dimensions of the grouping. -/
def walk (t : AggregateTree α) : List (Id × Dimension) → Except StatsError (AggregateTree α)
  | [] => .ok t
  | (id, d) :: path =>
    match t.child? id with
    | some child => walk child path
    | none => .error (.unknownId d id)

/-- One of the sums at a path of ids. A path shorter than the grouping reads the total over what is
    below, the empty path the grand total. -/
def get (a : Aggregate α) (field : Field) (path : List Id) : Except StatsError α :=
  if a.groupBy.length < path.length then
    .error (.pathTooLong path.length a.groupBy.length)
  else do
    return (← walk a.root (path.zip a.groupBy)).total.get field

def count (a : Aggregate α) (path : List Id) : Except StatsError α := a.get .count path

def wins (a : Aggregate α) (path : List Id) : Except StatsError α := a.get .wins path

def losses (a : Aggregate α) (path : List Id) : Except StatsError α := a.get .losses path

def ids (a : Aggregate α) (d : Dimension) : List Id := a.selection.ids d

end Aggregate

end LadderAtlas
