import LadderAtlas.Graph.Graph

/-! # Events

What can happen to a graph, in any order: a chart comes, the page changes its width, a control gets
a value, the mouse moves. An event that fails leaves a graph as well, and the next event finds that
one.
-/

namespace LadderAtlas

namespace Graph

/-- What can happen to a graph. -/
inductive Event (κ α : Type) where
  | init (chart : κ)
  | resize (width : α)
  | setControl (name value : String)
  | moveMouse (place : Point α)

variable {κ α : Type} [Scalar α] [Chart κ α]

def step (g : Graph κ α) : Event κ α → Result κ α
  | .init chart => g.init chart
  | .resize width => g.resize width
  | .setControl name value => g.setControl name value
  | .moveMouse place => g.moveMouse place

/-- The graph after events in a row. -/
def after (g : Graph κ α) (events : List (Event κ α)) : Graph κ α :=
  events.foldl (fun g e => (g.step e).1) g

end Graph

end LadderAtlas
