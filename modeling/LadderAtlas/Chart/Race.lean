import LadderAtlas.Chart.Source

/-! # The race chart

One line per race with the percentage of teams that play it.
-/

namespace LadderAtlas

/-- The race chart: what it is made from, the icons at the start of its lines, and its data. -/
structure RaceChart (α : Type) where
  source : ChartSource α
  icons : Keyed Id (Image α)
  points : List (SharePoint α)
  /-- The percentage at the top of the graph. -/
  top : α

namespace RaceChart

variable {α : Type} [Scalar α]

def new (source : ChartSource α) : RaceChart α := ⟨source, .empty, [], 0⟩

def races (c : RaceChart α) : List Id := c.source.catalog.ranked.race

/-- Put an icon below the given address at the start of the line of each race that has a key. -/
def withIcons (c : RaceChart α) (address : String) : RaceChart α :=
  { c with
    icons := c.icons.insertAll (c.races.filterMap fun race =>
      (c.source.catalog.key? .race race).map fun key =>
        (race, ⟨address ++ "img/races/" ++ key ++ ".svg", 16, 16⟩)) }

/-- Grandmaster, the highest league. -/
def grandmaster : Id := 6

def firstVersion : Id := 0

/-- The filter of the controls. There are no sound numbers for grandmaster in the first version, so
    nothing is shown there. -/
def filter (s : Settings) (defaultVersion : Id) : Filter :=
  let league := s.idOrAll Control.league
  if league = grandmaster ∧ s.version defaultVersion = firstVersion then
    (Filter.ofControls s defaultVersion).set .league []
  else (Filter.ofControls s defaultVersion).choose .league league

/-- The highest percentage of a point and the highest one so far. -/
def highest (top : α) (p : SharePoint α) : α :=
  if p.total != 0 then
    p.counts.foldl (fun top count => Scalar.max top (count / p.total * 100)) top
  else top

/-- The point of a snapshot. -/
def visit [Build] (filter : Filter) (stat : Stat α) :
    ChartMethod (RaceChart α) (SharePoint α) := do
  let c ← get
  GraphError.ofStats (SharePoint.ofStat stat filter .race c.races)

/-- Visit the snapshots oldest first, then put their points in place of those before. -/
def newSettings [Build] (s : Settings) : ChartMethod (RaceChart α) Unit := do
  let c ← get
  let filter := filter s c.source.defaultVersion
  let stats := c.source.mode.oldestFirst (some (s.version c.source.defaultVersion))
  let points ← stats.mapM (visit filter)
  modify fun c => { c with points := points }
  modify fun c => { c with top := Scalar.max (points.foldl highest 0) 0.001 }

def lines (c : RaceChart α) (v : Viewport α) : List (List (HoverPoint α)) :=
  (List.range c.races.length).map fun k =>
    timeLine v SharePoint.time (fun p => p.share k) c.points

/-- The line of a race, with its icon at the first point. -/
def lineMarks (c : RaceChart α) (f : Frame α) (race : Id) (line : List (HoverPoint α)) :
    Except GraphError (List (Mark α)) := do
  let path := line.map (·.place)
  let mark ← f.line? (.color (Format.raceColor race)) 2 path
  match c.icons.get? race, path.head? with
  | some icon, some start => return [mark, f.image icon start]
  | _, _ => return [mark]

/-- The chart in a frame: the lines in ranking order, then the axes. -/
def draw (c : RaceChart α) (f : Frame α) : Except GraphError (Drawing α) := do
  let (first, last) ← span? c.points
  let view := f.timeViewport first.time last.time c.top
  let lines := c.lines view
  let marks ← (lines.zip c.races).mapM fun (line, race) => c.lineMarks f race line
  return {
    marks := marks.flatten ++ f.yAxis view .percent ++ f.xAxis view .year c.source.seasons
    points := lines.flatten }

instance [Build] : Chart (RaceChart α) α where
  newSettings := newSettings
  withSize c _ _ := c
  draw := draw
  tooltip c index := c.source.shareTooltip .race c.races c.points[index]?

abbrev withSettings [Build] (c : RaceChart α) (s : Settings) : Except GraphError (RaceChart α) :=
  Chart.withSettings c s

end RaceChart

end LadderAtlas
