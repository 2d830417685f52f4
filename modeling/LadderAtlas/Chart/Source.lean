import LadderAtlas.Chart.Controls
import LadderAtlas.Chart.Format
import LadderAtlas.Graph.Axes
import LadderAtlas.Graph.Graph
import LadderAtlas.Stats.Mode

/-! # What charts are made from

All charts read one mode with the catalog and the seasons that name what is in it, and place their
points over time in the same way.
-/

namespace LadderAtlas

/-- The statistics of a mode and what is needed to name them. -/
structure ChartSource (α : Type) where
  mode : Mode α
  catalog : Catalog
  seasons : Seasons
  /-- The version that is shown where none is selected. -/
  defaultVersion : Id

/-- The counts of one snapshot in ranking order, and the count of everything selected. -/
structure SharePoint (α : Type) where
  season : Int32
  time : Int64
  counts : List α
  total : α
  deriving Repr, DecidableEq

namespace SharePoint

variable {α : Type} [Scalar α]

def shares (p : SharePoint α) : List α := p.counts.map fun count => Format.share count p.total

def share (p : SharePoint α) (k : Nat) : α := p.shares.getD k 0

/-- The point of a snapshot, its selected cells broken out by one dimension. -/
def ofStat [Build] (s : Stat α) (filter : Filter) (d : Dimension) (ranking : List Id) :
    Except StatsError (SharePoint α) := do
  filter.check s.layout
  let aggregate ← s.aggregate filter [d]
  let total ← aggregate.count []
  let counts ← ranking.mapM fun id => aggregate.count [id]
  return ⟨s.season, s.time, counts, total⟩

end SharePoint

namespace ChartSource

variable {α : Type} [Scalar α]

/-- The first rows of every tooltip: when a snapshot was taken, and in which season. -/
def timeRows (c : ChartSource α) (time : Int64) (season : Int32) : List (String × String) :=
  [("Date", Format.date time), ("Season", c.seasons.labelOf season)]

/-- The tooltip of a point that is broken out by a dimension. -/
def shareTooltip (c : ChartSource α) (d : Dimension) (ranking : List Id)
    (p : Option (SharePoint α)) : Tooltip α :=
  match p with
  | none => ⟨[], 210⟩
  | some p =>
    let rows := (p.counts.zip ranking).map fun (count, id) =>
      (c.catalog.label d id, Format.countOf count p.total)
    ⟨c.timeRows p.time p.season ++ rows ++ [("Population", Format.count p.total)], 210⟩

end ChartSource

namespace Frame

variable {α : Type} [Scalar α]

/-- The viewport of a time chart from `first` to `last` with values from zero to `top`. -/
def timeViewport (f : Frame α) (first last : Int64) (top : α) : Viewport α :=
  ⟨⟨Scalar.ofInt first.toInt, Scalar.ofInt last.toInt, f.width⟩, ⟨0, top, f.height⟩⟩

end Frame

/-- The points of a line over time, one for each data point, by the data point's time and value. -/
def timeLine {α β : Type} [Scalar α] (v : Viewport α) (time : β → Int64) (value : β → α)
    (points : List β) : List (HoverPoint α) :=
  points.zipIdx.map fun (p, i) =>
    ⟨⟨v.column (Scalar.ofInt (time p).toInt), v.row (value p)⟩, i⟩

end LadderAtlas
