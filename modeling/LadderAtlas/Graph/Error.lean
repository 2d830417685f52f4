import LadderAtlas.Stats.Error

/-! # What can go wrong with charts and tables -/

namespace LadderAtlas

/-- Why a chart could not be drawn or a table not be filled. -/
inductive GraphError where
  | notInitialized
  | noData
  | unknownSeason (season : Int32)
  | emptyPath
  | missingSetting (name : String)
  | stats (error : StatsError)
  /-- Two times are so far apart that their difference does not fit in a word. -/
  | overflow
  deriving Repr, DecidableEq

namespace GraphError

def message : GraphError → String
  | .notInitialized => "Graph is not initialized"
  | .noData => "No data to draw"
  | .unknownSeason season => "Unknown season " ++ Numeral.text season.toInt
  | .emptyPath => "Cannot draw a path without points"
  | .missingSetting name => "Missing setting " ++ name
  | .stats error => "Stats error: " ++ error.message
  | .overflow => "Times too far apart"

/-- Whether it is no answer but the end of the program. -/
def isPanic : GraphError → Bool
  | .stats error => error.isPanic
  | .overflow => true
  | _ => false

/-- What statistics answer, seen by a chart. -/
def ofStats {β : Type} : Except StatsError β → Except GraphError β
  | .ok value => .ok value
  | .error error => .error (.stats error)

end GraphError

end LadderAtlas
