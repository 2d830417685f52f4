import LadderAtlas.Chart.Source

/-! # The league chart

Areas stacked on one another, each as high as the percentage of teams in its league.
-/

namespace LadderAtlas

/-- The league chart: what it is made from, and its data. -/
structure LeagueChart (α : Type) where
  source : ChartSource α
  points : List (SharePoint α)

namespace LeagueChart

variable {α : Type} [Scalar α]

def new (source : ChartSource α) : LeagueChart α := ⟨source, []⟩

/-- The leagues that have an area, from the bottom to the top. -/
def leagues (c : LeagueChart α) : List Id := c.source.catalog.ranked.league

/-- The point of a snapshot. -/
def visit [Build] (filter : Filter) (stat : Stat α) :
    ChartMethod (LeagueChart α) (SharePoint α) := do
  let c ← get
  GraphError.ofStats (SharePoint.ofStat stat filter .league c.leagues)

/-- Visit the snapshots newest first, then put a selection of their points in place of those
    before. -/
def newSettings [Build] (s : Settings) : ChartMethod (LeagueChart α) Unit := do
  let c ← get
  let filter := Filter.ofControls s c.source.defaultVersion
  let stats := c.source.mode.newestFirst (some (s.version c.source.defaultVersion))
  let newestFirst ← stats.mapM (visit filter)
  modify fun c =>
    { c with points := (TimeSelection.ofControls s).apply SharePoint.season newestFirst }

/-- The sums of the values up to each one, on top of `base`. -/
def stack (base : α) : List α → List α
  | [] => []
  | value :: rest => (base + value) :: stack (base + value) rest

/-- The percentage of the teams up to a position of the ranking. -/
def height (k : Nat) (p : SharePoint α) : α := (stack 0 p.shares).getD k 0

/-- The upper borders of the areas, one for each league. -/
def lines (c : LeagueChart α) (v : Viewport α) : List (List (HoverPoint α)) :=
  (List.range c.leagues.length).map fun k => timeLine v SharePoint.time (height k) c.points

/-- The style of a league, white where it has none. -/
def style (f : Frame α) (league : Id) : Style α :=
  let style? := if league < 0 then none else f.leagueStyle? league.toInt.toNat
  style?.getD (.color Palette.white)

/-- The area from the bottom of the graph up to a line. -/
def areaMark (f : Frame α) (league : Id) (line : List (HoverPoint α)) :
    Except GraphError (Mark α) :=
  f.area? (style f league) (⟨f.width, f.height⟩ :: ⟨0, f.height⟩ :: line.map (·.place))

/-- The chart in a frame: the areas from the highest to the lowest, then the axes. Each area reaches
    down to the bottom, so the later ones cover it up to their own borders. -/
def draw (c : LeagueChart α) (f : Frame α) : Except GraphError (Drawing α) := do
  let (first, last) ← span? c.points
  let view := f.timeViewport first.time last.time 100
  let lines := c.lines view
  let marks ← (lines.zip c.leagues).reverse.mapM fun (line, league) => areaMark f league line
  return {
    marks := marks ++ f.yAxis view .percent ++ f.xAxis view .year c.source.seasons
    points := lines.flatten }

instance [Build] : Chart (LeagueChart α) α where
  newSettings := newSettings
  withSize c _ _ := c
  draw := draw
  tooltip c index := c.source.shareTooltip .league c.leagues c.points[index]?

abbrev withSettings [Build] (c : LeagueChart α) (s : Settings) :
    Except GraphError (LeagueChart α) :=
  Chart.withSettings c s

end LeagueChart

end LadderAtlas
