import LadderAtlas.Chart.Source

/-! # The population chart

The number of teams over time, or the games that were played per day of the season.
-/

namespace LadderAtlas

inductive PopulationMeasure where
  | teams
  | gamesPerDay
  deriving Repr, DecidableEq

def PopulationMeasure.ofControls (s : Settings) : PopulationMeasure :=
  if s.get? Control.yAxis = some "g" then .gamesPerDay else .teams

/-- The numbers of one snapshot. -/
structure PopulationPoint (α : Type) where
  season : Int32
  time : Int64
  /-- Days since the season began. -/
  age : α
  count : α
  /-- Games played since the season began. -/
  games : α
  gamesPerDay : α
  value : α
  deriving Repr, DecidableEq

/-- The population chart: what it is made from, and its data. -/
structure PopulationChart (α : Type) where
  source : ChartSource α
  points : List (PopulationPoint α)
  /-- The number at the top of the graph. -/
  top : α

namespace PopulationChart

variable {α : Type} [Scalar α]

def new (source : ChartSource α) : PopulationChart α := ⟨source, [], 0.001⟩

/-- Days from the start of a season to a time, `none` where the two are too far apart. -/
def ageAt? [Build] (season : Season) (time : Int64) : Option α := do
  return Scalar.ofInt (← Word.minus? time season.start).toInt / 86400

/-- The point of a snapshot, whose season has to be known. -/
def point [Build] (seasons : Seasons) (filter : Filter) (measure : PopulationMeasure) (s : Stat α) :
    Except GraphError (PopulationPoint α) := do
  GraphError.ofStats (filter.check s.layout)
  match seasons.get? s.season with
  | none => .error (.unknownSeason s.season)
  | some season =>
    let aggregate ← GraphError.ofStats (s.aggregate filter [])
    let some age := ageAt? season s.time | .error .overflow
    let games := (← GraphError.ofStats (aggregate.wins []))
      + (← GraphError.ofStats (aggregate.losses []))
    let gamesPerDay := if 0 < age then games / age else 0
    let count ← GraphError.ofStats (aggregate.count [])
    return {
      season := season.id
      time := s.time
      age := age
      count := count
      games := games
      gamesPerDay := gamesPerDay
      value := match measure with
        | .teams => count
        | .gamesPerDay => gamesPerDay }

/-- The point of a snapshot, from the seasons of the chart. -/
def visit [Build] (filter : Filter) (measure : PopulationMeasure) (stat : Stat α) :
    ChartMethod (PopulationChart α) (PopulationPoint α) := do
  let c ← get
  point c.source.seasons filter measure stat

/-- Visit the snapshots newest first, then put a selection of their points in place of those
    before. -/
def newSettings [Build] (s : Settings) : ChartMethod (PopulationChart α) Unit := do
  let c ← get
  let filter := Filter.ofControls s c.source.defaultVersion
  let measure := PopulationMeasure.ofControls s
  let stats := c.source.mode.newestFirst (some (s.version c.source.defaultVersion))
  let newestFirst ← stats.mapM (visit filter measure)
  modify fun c =>
    { c with points := (TimeSelection.ofControls s).apply PopulationPoint.season newestFirst }
  modify fun c =>
    { c with top := c.points.foldl (fun top p => Scalar.max top p.value) 0.001 }

def lineColor : String := "#ffffaa"

def line (c : PopulationChart α) (v : Viewport α) : List (HoverPoint α) :=
  timeLine v PopulationPoint.time PopulationPoint.value c.points

/-- The chart in a frame: the line, then the axes. -/
def draw (c : PopulationChart α) (f : Frame α) : Except GraphError (Drawing α) := do
  let (first, last) ← span? c.points
  let view := f.timeViewport first.time last.time c.top
  let line := c.line view
  let mark ← f.line? (.color lineColor) 2 (line.map (·.place))
  return {
    marks := mark :: (f.yAxis view .int ++ f.xAxis view .year c.source.seasons)
    points := line }

def tooltip (c : PopulationChart α) (p : Option (PopulationPoint α)) : Tooltip α :=
  match p with
  | none => ⟨[], 188⟩
  | some p =>
    ⟨c.source.timeRows p.time p.season ++
      [("Season age", Numeral.text (Scalar.nearestInt64 p.age) ++ " days"),
        ("Teams", Format.count p.count),
        ("Games/day", Format.count p.gamesPerDay),
        ("Games", Format.count p.games)], 188⟩

instance [Build] : Chart (PopulationChart α) α where
  newSettings := newSettings
  withSize c _ _ := c
  draw := draw
  tooltip c index := c.tooltip c.points[index]?

abbrev withSettings [Build] (c : PopulationChart α) (s : Settings) :
    Except GraphError (PopulationChart α) :=
  Chart.withSettings c s

end PopulationChart

end LadderAtlas
