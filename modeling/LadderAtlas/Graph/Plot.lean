import LadderAtlas.Graph.Canvas
import LadderAtlas.Graph.Error

/-! # Plots

A frame divides a canvas into a graph area and the edges around it, and turns places in the graph
area into marks. A plot is a canvas with its frame and the size that both were last given.
-/

namespace LadderAtlas

/-- Distances from the borders of a canvas to its graph area. -/
structure Edges (α : Type) where
  top : α
  right : α
  bottom : α
  left : α
  deriving Repr, DecidableEq

def Edges.standard {α : Type} [Scalar α] : Edges α := ⟨20, 40, 20, 64⟩

namespace Palette

def white : String := "#ffffff"

def black : String := "#000000"

/-- The two colours of each league up to master, from bronze on. -/
def leagues : List (String × String) :=
  [("#5d3621", "#3d1f17"), ("#606060", "#808080"), ("#e8e8e8", "#e8b830"), ("#a0a0a0", "#e0e0e0"),
    ("#2080c0", "#3040a0"), ("#078786", "#5aeeee")]

def grandmaster : String := "#ff0000"

end Palette

/-- The points of a path moved right and down. A path has a point at least. -/
def Point.path? {α : Type} [Scalar α] (points : List (Point α)) (dx dy : α) :
    Except GraphError (List (Point α)) :=
  if points.isEmpty then .error .emptyPath else .ok (points.map fun p => p.offset dx dy)

/-- A graph area and what is around it. -/
structure Frame (α : Type) where
  edges : Edges α
  /-- How far the time axis goes on past the graph area at both ends. -/
  margin : α
  width : α
  height : α
  /-- Whether the area has been given a size; until then leagues have no styles. -/
  sized : Bool
  deriving Repr

namespace Frame

variable {α : Type} [Scalar α]

def ofSize (edges : Edges α) (margin width height : α) : Frame α where
  edges := edges
  margin := margin
  width := width - edges.left - edges.right
  height := height - edges.top - edges.bottom
  sized := true

/-- A place of the graph area on the canvas. -/
def locate (f : Frame α) (p : Point α) : Point α := p.offset f.edges.left f.edges.top

def segment (f : Frame α) (color : String) (width : α) (p q : Point α) : Mark α :=
  .stroke [f.locate p, f.locate q] (.color color) width

/-- A line through points of the graph area. -/
def line? (f : Frame α) (style : Style α) (width : α) (points : List (Point α)) :
    Except GraphError (Mark α) := do
  return .stroke (← Point.path? points f.edges.left f.edges.top) style width

/-- An area between points of the graph area. -/
def area? (f : Frame α) (style : Style α) (points : List (Point α)) :
    Except GraphError (Mark α) := do
  return .fill (← Point.path? points f.edges.left f.edges.top) style

/-- The fractions of the way across the graph area at which a league's two colours take turns. -/
def leagueStops : List α := [0, 0.2, 0.4, 0.5, 0.6, 0.8, 0.9, 1]

/-- Let two colours take turns. -/
def alternate (first second : String) : List α → List (α × String)
  | [] => []
  | stop :: rest => (stop, first) :: alternate second first rest

/-- The style of a league: two colours in turn across the graph area, and plain red above master. -/
def leagueStyle? (f : Frame α) (league : Nat) : Option (Style α) :=
  if f.sized then
    match Palette.leagues[league]? with
    | some (first, second) =>
      some (.gradient ⟨⟨0, 0⟩, ⟨f.width, f.height⟩, alternate first second leagueStops⟩)
    | none => if league = Palette.leagues.length then some (.color Palette.grandmaster) else none
  else none

/-- An area in the style of a league, white where the league has none. -/
def leagueArea? (f : Frame α) (league : Nat) (points : List (Point α)) :
    Except GraphError (Mark α) :=
  f.area? ((f.leagueStyle? league).getD (.color Palette.white)) points

/-- A picture with its middle at a place of the graph area. -/
def image (f : Frame α) (image : Image α) (middle : Point α) : Mark α :=
  .image image ⟨middle.x - image.width / 2 + f.edges.left,
    middle.y - image.height / 2 + f.edges.top⟩

end Frame

/-- A canvas with the frame that divides it, and the size of both. -/
structure Plot (α : Type) where
  canvas : Canvas α
  width : α
  height : α
  frame : Frame α
  deriving Repr

namespace Plot

variable {α : Type} [Scalar α]

/-- A plot whose canvas has no size yet. -/
def blank (edges : Edges α) (margin : α) : Plot α :=
  ⟨.empty, 0, 0, ⟨edges, margin, 0, 0, false⟩⟩

def resize (p : Plot α) (width height : α) : Plot α :=
  ⟨.resize width height, width, height, .ofSize p.frame.edges p.frame.margin width height⟩

def draw (p : Plot α) (m : Mark α) : Plot α := { p with canvas := p.canvas.draw m }

def drawAll (p : Plot α) (ms : List (Mark α)) : Plot α :=
  { p with canvas := p.canvas.drawAll ms }

/-- Black over the whole canvas. -/
def backdrop (p : Plot α) (alpha : α) : Mark α :=
  .rect ⟨0, 0, p.width, p.height⟩ (.color Palette.black) alpha

/-- Paint the whole canvas black, which at full `alpha` leaves nothing else on it. -/
def clear (p : Plot α) (alpha : α) : Plot α := p.draw (p.backdrop alpha)

/-- A horizontal and a vertical line across the whole canvas through a place of the graph area.
    Lines of one pixel are sharp in the middle of a pixel. -/
def crosshair (p : Plot α) (place : Point α) : List (Mark α) :=
  let x := Scalar.round (place.x + p.frame.edges.left) + 0.5
  let y := Scalar.round (place.y + p.frame.edges.top) + 0.5
  let across (a b : Point α) : Mark α :=
    .stroke [a.offset 0 0, b.offset 0 0] (.color Palette.white) 1
  [across ⟨0, y⟩ ⟨p.width, y⟩, across ⟨x, 0⟩ ⟨x, p.height⟩]

end Plot

end LadderAtlas
