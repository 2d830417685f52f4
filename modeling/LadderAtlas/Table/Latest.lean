import LadderAtlas.Chart.Controls
import LadderAtlas.Chart.Format
import LadderAtlas.Stats.Mode
import LadderAtlas.Table.View

/-! # Tables of the latest snapshot

The counts of the last snapshot of a mode: by region and league, by league and race, and by region.
-/

namespace LadderAtlas

/-- A mode, the names of what is in it, and the version that is shown where none is selected. -/
structure LatestTables (α : Type) where
  mode : Mode α
  catalog : Catalog
  defaultVersion : Id

namespace LatestTables

variable {α : Type} [Scalar α]

/-- The aggregate of the last snapshot under a filter that its layout has to know. -/
def aggregate [Build] (t : LatestTables α) (filter : Filter) (groupBy : List Dimension) :
    Except StatsError (Aggregate α) := do
  let stat ← t.mode.last
  filter.check stat.layout
  stat.aggregate filter groupBy

def countCells (a : Aggregate α) (path ids : List Id) (total : α) :
    Except StatsError (List String) :=
  ids.mapM fun id => do return Format.countOf (← a.count (path ++ [id])) total

/-- The filter for the version alone, whatever region is selected. -/
def versionFilter (t : LatestTables α) (s : Settings) : Filter :=
  Filter.ofVersion (s.version t.defaultVersion)

def leagueRow (t : LatestTables α) (a : Aggregate α) (leagues : List Id) (region : Id)
    (path : List Id) : Except StatsError (List String) := do
  let total ← a.count path
  let cells ← countCells a path leagues total
  return t.catalog.label .region region :: Format.count total :: cells

/-- How the teams of each region, and of the world, spread over the leagues. -/
def league [Build] (t : LatestTables α) : TableSource := fun s => GraphError.ofStats do
  let byRegion ← t.aggregate (t.versionFilter s) [.region, .league]
  let world ← t.aggregate (t.versionFilter s) [.league]
  let leagues := byRegion.ids .league
  let rows ← (byRegion.ids .region).mapM fun region => t.leagueRow byRegion leagues region [region]
  let worldRow ← t.leagueRow world leagues Id.all []
  return {
    title := "League distribution"
    header := "Region" :: "Population" :: leagues.map (t.catalog.label .league)
    rows := rows ++ [worldRow] }

/-- How the teams of each league spread over the races. -/
def race [Build] (t : LatestTables α) : TableSource := fun s => GraphError.ofStats do
  let a ← t.aggregate (Filter.ofControls s t.defaultVersion) [.league, .race]
  let races := a.ids .race
  let rows ← (a.ids .league).mapM fun league => do
    let total ← a.count [league]
    let cells ← countCells a [league] races total
    return t.catalog.label .league league :: cells
  return {
    title := "Race distribution"
    header := "League" :: races.map (t.catalog.label .race)
    rows := rows }

/-- How many teams there are in each region and in the world. -/
def population [Build] (t : LatestTables α) : TableSource := fun s => GraphError.ofStats do
  let a ← t.aggregate (t.versionFilter s) [.region]
  let row (region : Id) (path : List Id) : Except StatsError (List String) := do
    return [t.catalog.label .region region, Format.count (← a.count path)]
  let rows ← (a.ids .region).mapM fun region => row region [region]
  let worldRow ← row Id.all []
  return { title := "Population", header := ["Region", "Teams"], rows := rows ++ [worldRow] }

end LatestTables

end LadderAtlas
