import LadderAtlas.Graph.Page
import LadderAtlas.Graph.Plot
import LadderAtlas.Settings

/-! # Graphs

A graph keeps one chart on one page. It waits until a chart is installed. From then on each event
that changes what is to be seen draws everything anew: clear, draw the chart, keep the points that
answer to the mouse, draw the crosshair. A failed drawing leaves the canvas black and nothing to
hover over.
-/

namespace LadderAtlas

/-- What a chart puts on a cleared canvas: its marks, and the points that answer to the mouse. -/
structure Drawing (α : Type) where
  marks : List (Mark α)
  points : List (HoverPoint α)
  deriving Repr

/-- A method of a chart. It changes the chart in place, and where it fails on its way the chart
    stays as it is then. -/
abbrev ChartMethod (κ β : Type) := ExceptT GraphError (StateM κ) β

/-- What a method answers, and what it leaves of the chart that it is called on. -/
def ChartMethod.on {κ β : Type} (method : ChartMethod κ β) (chart : κ) : Except GraphError β × κ :=
  method.run.run chart

/-- What a graph asks of its chart. -/
class Chart (κ : Type) (α : outParam Type) where
  /-- Compute the data for the given controls. -/
  newSettings : Settings → ChartMethod κ Unit
  /-- The chart told the size of the graph area. -/
  withSize : κ → (width height : α) → κ
  /-- All that the chart has to draw. A drawing fails before any of it is on the canvas. -/
  draw : κ → Frame α → Except GraphError (Drawing α)
  /-- What to show beside a point of the given index. -/
  tooltip : κ → Nat → Tooltip α

/-- The chart with its data computed for the given controls, unless it refuses them. -/
def Chart.withSettings {κ α : Type} [Chart κ α] (chart : κ) (s : Settings) : Except GraphError κ :=
  match (Chart.newSettings s).on chart with
  | (.ok (), chart) => .ok chart
  | (.error e, _) => .error e

/-- Sizes and distances that a graph is set up with. -/
structure GraphOptions (α : Type) where
  edges : Edges α
  /-- How far the time axis goes on past the graph area. -/
  margin : α
  /-- The least height of the canvas. -/
  minHeight : α
  /-- The height of the canvas as a fraction of its width. -/
  aspect : α
  /-- How near the mouse has to come to a point. -/
  hoverRadius : α
  deriving Repr

/-- The sizes of a graph unless others are configured. -/
def GraphOptions.standard {α : Type} [Scalar α] : GraphOptions α := ⟨.standard, 20, 280, 0.3, 16⟩

/-- A chart on its page, or the page waiting for one. -/
structure Graph (κ α : Type) where
  options : GraphOptions α
  plot : Plot α
  page : Page α
  settings : Settings
  chart : Option κ
  points : List (HoverPoint α)
  /-- The place of the graph area under the crosshair. -/
  crosshair : Option (Point α)

/-- A graph after an event, and what went wrong in it, if anything. -/
abbrev Graph.Result (κ α : Type) := Graph κ α × Except GraphError Unit

namespace Graph

variable {κ α : Type} [Scalar α]

/-- The height of a canvas of the given width. -/
def canvasHeight (options : GraphOptions α) (width : α) : α :=
  Scalar.max options.minHeight (Scalar.round (width * options.aspect))

def fitCanvas (g : Graph κ α) : Graph κ α :=
  { g with plot := g.plot.resize g.page.width (canvasHeight g.options g.page.width) }

/-- A graph that waits for its chart. -/
def new (options : GraphOptions α) (page : Page α) (settings : Settings) : Graph κ α :=
  fitCanvas
    { options := options
      plot := .blank options.edges options.margin
      page := page.tell .wait
      settings := settings
      chart := none
      points := []
      crosshair := none }

def isInitialized (g : Graph κ α) : Bool := g.chart.isSome

def tell (g : Graph κ α) (e : PageEvent α) : Graph κ α := { g with page := g.page.tell e }

/-- The graph with its canvas cleared and nothing to hover over. -/
def cleared (g : Graph κ α) : Graph κ α := { g with plot := g.plot.clear 1, points := [] }

/-- Put a drawing on a cleared canvas, the crosshair on top. -/
def put (g : Graph κ α) (d : Drawing α) : Graph κ α :=
  let plot := g.plot.drawAll d.marks
  let plot := match g.crosshair with
    | some place => plot.drawAll (plot.crosshair place)
    | none => plot
  { g with plot := plot, points := d.points }

variable [Chart κ α]

/-- Draw everything anew. -/
def redraw (g : Graph κ α) : Result κ α :=
  match g.chart with
  | none => (g, .error .notInitialized)
  | some chart =>
    let blank := g.cleared
    match Chart.draw chart blank.plot.frame with
    | .ok drawing => (blank.put drawing, .ok ())
    | .error e => ({ blank with crosshair := none }.tell .hideTip, .error e)

/-- Install a chart. A chart that refuses the controls is dropped, and everything stays as it is. -/
def init (g : Graph κ α) (chart : κ) : Result κ α :=
  let sized := Chart.withSize chart g.plot.frame.width g.plot.frame.height
  match (Chart.newSettings g.settings).on sized with
  | (.error e, _) => (g, .error e)
  | (.ok (), chart) => ({ g with chart := some chart }.tell .ready).redraw

def resize (g : Graph κ α) (width : α) : Result κ α :=
  let g := { g with page := { g.page with width := width } }.fitCanvas
  match g.chart with
  | none => (g, .ok ())
  | some chart =>
    let sized := Chart.withSize chart g.plot.frame.width g.plot.frame.height
    { g with chart := some sized }.redraw

/-- A control has a new value. If the chart refuses it, nothing is drawn. -/
def setControl (g : Graph κ α) (name value : String) : Result κ α :=
  let g := { g with settings := g.settings.set name value }
  match g.chart with
  | none => (g, .ok ())
  | some chart =>
    let (reply, chart) := (Chart.newSettings g.settings).on chart
    let g := { g with chart := some chart }
    match reply with
    | .error e => (g, .error e)
    | .ok () => g.redraw

/-- Show the tooltip of a point and draw the crosshair through it. The tooltip stays off the right
    border. -/
def hover (g : Graph κ α) (chart : κ) (point : HoverPoint α) : Result κ α :=
  let tooltip := Chart.tooltip chart point.index
  let edges := g.plot.frame.edges
  let callout : Callout α :=
    { tooltip := tooltip
      left := Scalar.min (point.place.x + edges.left + 20)
        (g.plot.width - tooltip.width - 10)
      top := point.place.y + edges.top + 20 }
  redraw { g.tell (.showTip callout) with crosshair := some point.place }

def leave (g : Graph κ α) : Result κ α := redraw { g.tell .hideTip with crosshair := none }

/-- Whether a place is farther out of the graph area than half of the edges around it. -/
def isOutside (f : Frame α) (p : Point α) : Bool :=
  decide (p.x < -f.edges.left / 2) || decide (f.width + f.edges.right / 2 < p.x)
    || decide (p.y < -f.edges.top / 2) || decide (f.height + f.edges.bottom / 2 < p.y)

/-- The point that the mouse is over at a place of the graph area, if any. -/
def hit? (g : Graph κ α) (mouse : Point α) : Option (HoverPoint α) :=
  if isOutside g.plot.frame mouse then none
  else
    match HoverPoint.nearest? g.points mouse with
    | some n => if n.distance < g.options.hoverRadius * g.options.hoverRadius then
      some n.point else none
    | none => none

/-- The mouse has moved to a place of the canvas. -/
def moveMouse (g : Graph κ α) (place : Point α) : Result κ α :=
  match g.chart with
  | none => (g, .ok ())
  | some chart =>
    let edges := g.plot.frame.edges
    match g.hit? ⟨place.x - edges.left, place.y - edges.top⟩ with
    | some point => g.hover chart point
    | none => g.leave

end Graph

end LadderAtlas
