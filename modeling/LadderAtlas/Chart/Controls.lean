import LadderAtlas.Catalog
import LadderAtlas.Graph.Error
import LadderAtlas.Season
import LadderAtlas.Settings
import LadderAtlas.Stats.Filter

/-! # Controls of charts and tables

The controls are called `v` for the version, `r` for the region, `l` for the league, `sx` for the
snapshots that a time chart shows and `sy` for what a population chart counts.
-/

namespace LadderAtlas

namespace Control

def version : String := "v"
def region : String := "r"
def league : String := "l"
def xAxis : String := "sx"
def yAxis : String := "sy"

end Control

namespace Settings

/-- The controls before anything was selected: all regions and leagues of one version, every
    snapshot, and teams counted. -/
def standard (defaultVersion : Id) : Settings :=
  let all := Catalog.numeral Id.all
  empty |>.set Control.version (Catalog.numeral defaultVersion) |>.set Control.region all
    |>.set Control.league all |>.set Control.xAxis "a" |>.set Control.yAxis "c"

/-- The version that is selected. -/
def version (s : Settings) (defaultVersion : Id) : Id := (s.id? Control.version).getD defaultVersion

end Settings

namespace Filter

/-- The filter that lists a single version. -/
def ofVersion (version : Id) : Filter := empty.set .version [version]

/-- The filter with a single id listed for a dimension, or left as it is where all are meant. -/
def choose (f : Filter) (d : Dimension) (id : Id) : Filter :=
  if id = Id.all then f else f.set d [id]

/-- The filter for the version and the region that are selected. -/
def ofControls (s : Settings) (defaultVersion : Id) : Filter :=
  (ofVersion (s.version defaultVersion)).choose .region (s.idOrAll Control.region)

end Filter

/-- The snapshots that a time chart shows. -/
inductive TimeSelection where
  | all
  | seasonLast
  deriving Repr, DecidableEq

namespace TimeSelection

def ofControls (s : Settings) : TimeSelection :=
  if s.get? Control.xAxis = some "sl" then .seasonLast else .all

/-- Keep the first of each run of points of one season, given the season of the run before. -/
def firstOfRuns {β : Type} (season : β → Int32) : (before : Option Int32) → List β → List β
  | _, [] => []
  | before, p :: rest =>
    if before = some (season p) then firstOfRuns season before rest
    else p :: firstOfRuns season (some (season p)) rest

/-- Select from points given newest first; the result is oldest first. -/
def apply {β : Type} (selection : TimeSelection) (season : β → Int32) (newestFirst : List β) :
    List β :=
  match selection with
  | .all => newestFirst.reverse
  | .seasonLast => (firstOfRuns season none newestFirst).reverse

end TimeSelection

/-- The first and the last of two points or more. -/
def span? {β : Type} (points : List β) : Except GraphError (β × β) :=
  match points with
  | first :: next :: rest => .ok (first, (next :: rest).getLast (by simp))
  | _ => .error .noData

end LadderAtlas
