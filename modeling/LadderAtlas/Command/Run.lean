import LadderAtlas.Chart.League
import LadderAtlas.Chart.Population
import LadderAtlas.Chart.Race
import LadderAtlas.Command.Invocation
import LadderAtlas.Config
import LadderAtlas.Fetch.Context
import LadderAtlas.Graph.Svg
import LadderAtlas.Table.History
import LadderAtlas.Table.Latest

/-! # Running the command

The command reads the configuration, the catalog and the seasons, fetches what its task needs, and
prints tables or writes a chart. The first thing that fails ends the run; what was printed before
stays printed. All that the command does to the world goes through a `Shell`.
-/

namespace LadderAtlas.Command

structure Shell (m : Type → Type) where
  isThere : String → m Bool
  readText? : String → m (Option String)
  writeText : (path text : String) → m Bool
  print : String → m Unit
  complain : String → m Unit
  send : Transport m

/-- Why a run ended early. -/
inductive Failure where
  | config (path : String) (error : ConfigError)
  | badSite (fault : ConfigFault)
  | unreadable (path : String)
  | badCatalog
  | badSeasons
  | store (error : StoreError)
  | fetch (error : FetchError)
  | graph (error : GraphError)
  | tooWide
  | unwritable (path : String)

namespace Failure

def message : Failure → String
  | .config path _ => "Loading " ++ path
  | .badSite fault => (ConfigError.invalid fault).message
  | .unreadable path => "Reading " ++ path
  | .badCatalog => "Parsing enums"
  | .badSeasons => "Parsing seasons"
  | .store error => error.message
  | .fetch error => error.message
  | .graph error => error.message
  | .tooWide => "A column is too wide"
  | .unwritable path => "Writing " ++ path

/-- Whether the run did not fail but end in a panic. -/
def isPanic : Failure → Bool
  | .store error => error.isPanic
  | .fetch error => error.isPanic
  | .graph error => error.isPanic
  | .tooWide => true
  | _ => false

def exitCode (failure : Failure) : UInt32 := if failure.isPanic then 101 else 1

end Failure

variable {m : Type → Type} [Monad m]

abbrev Run (m : Type → Type) := ExceptT Failure m

namespace Run

def ofExcept {ε β : Type} (failure : ε → Failure) : Except ε β → Run m β
  | .ok value => pure value
  | .error e => throw (failure e)

def ofOption {β : Type} (failure : Failure) : Option β → Run m β
  | some value => pure value
  | none => throw failure

end Run

/-- Load the configuration. Where there is none, the standard one holds. -/
def loadConfig (shell : Shell m) (path : String) : Run m Config := do
  if ← shell.isThere path then
    match ← shell.readText? path with
    | some text => Run.ofExcept (Failure.config path) (Config.parse text)
    | none => throw (.config path .unreadable)
  else return .standard

def readFile (shell : Shell m) (path : String) : Run m String := do
  Run.ofOption (.unreadable path) (← shell.readText? path)

/-- Load all that is known before anything is fetched. -/
def loadContext (shell : Shell m) (config : Config) : Run m (PageContext m) := do
  let catalog ← Run.ofOption .badCatalog (Catalog.parse? (← readFile shell config.catalogPath))
  let seasons ← Run.ofOption .badSeasons (Seasons.parse? (← readFile shell config.seasonsPath))
  let base ← Run.ofExcept .badSite config.dynamicUrl?
  return ⟨catalog, seasons, .http shell.send config.fetch base⟩

def fetchMode (context : PageContext m) (mode : Id) : Run m (Mode Float) := do
  let (result, _) ← (context.mode mode).run Store.empty
  let (_, loaded) ← Run.ofExcept Failure.store result
  return loaded

def select (settings : Settings) (name : String) : Option Id → Settings
  | some id => settings.set name (Catalog.numeral id)
  | none => settings

/-- Print a table. The title is out before any column is looked at. -/
def printText (shell : Shell m) (table : Table) : Run m Unit := do
  match table.text? with
  | some text => shell.print (text ++ "\n")
  | none =>
    shell.print (table.title ++ "\n")
    throw .tooWide

def printTable (shell : Shell m) (settings : Settings) (source : TableSource) : Run m Unit := do
  let (view, result) := (TableView.new settings).init source
  Run.ofExcept Failure.graph result
  match view.table with
  | some table => printText shell table
  | none => return

/-- Print the tables of the last snapshot. -/
def runTables (shell : Shell m) (config : Config) (context : PageContext m) (t : TablesTask) :
    Run m Unit := do
  let tables : LatestTables Float :=
    ⟨← fetchMode context t.mode, context.catalog, config.site.defaultVersion⟩
  let settings := Settings.standard config.site.defaultVersion
  let settings := select settings Control.version t.version
  let settings := select settings Control.region t.region
  printTable shell settings tables.league
  printTable shell settings tables.race
  printTable shell settings tables.population

def runHistory (shell : Shell m) (context : PageContext m) (team : Int64) : Run m Unit := do
  let history ← Run.ofExcept Failure.fetch (← context.history team)
  printText shell (Table.ofHistory history)

def document {κ : Type} [Chart κ Float] (config : Config) (settings : Settings) (width : Float)
    (chart : κ) : Run m String := do
  let (graph, result) := (Graph.new config.graph (.ofWidth width) settings).init chart
  Run.ofExcept Failure.graph result
  return graph.plot.canvas.documentText

def renderSettings (config : Config) (t : RenderTask) : Settings :=
  let settings := Settings.standard config.site.defaultVersion
  let settings := select settings Control.version t.version
  let settings := select settings Control.region t.region
  let settings := select settings Control.league t.league
  settings |>.set Control.xAxis t.xAxis |>.set Control.yAxis t.yAxis

def runRender (shell : Shell m) (config : Config) (context : PageContext m) (t : RenderTask) :
    Run m Unit := do
  let source : ChartSource Float :=
    ⟨← fetchMode context t.mode, context.catalog, context.seasons, config.site.defaultVersion⟩
  let settings := renderSettings config t
  let text ← match t.chart with
    | .race =>
      document config settings t.width ((RaceChart.new source).withIcons config.site.staticUrl)
    | .league => document config settings t.width (LeagueChart.new source)
    | .population => document config settings t.width (PopulationChart.new source)
  if !(← shell.writeText t.out text) then throw (.unwritable t.out)

def run (shell : Shell m) (i : Invocation) : Run m Unit := do
  let config ← loadConfig shell i.configPath
  let config := { config with
    dataDirectory := i.dataDirectory.getD config.dataDirectory
    logLevel := i.logLevel.getD config.logLevel }
  let context ← loadContext shell config
  match i.task with
  | .tables t => runTables shell config context t
  | .history team => runHistory shell context team
  | .render t => runRender shell config context t

def usage : String :=
  "Usage: ladder-stats [--config PATH] [--data-dir PATH] [--log-level LEVEL] [--json-logs] TASK\n"
    ++ "\n"
    ++ "Tasks:\n"
    ++ "  tables --mode ID [--version ID] [--region ID]\n"
    ++ "  history --team ID\n"
    ++ "  render race|league|population --mode ID --out PATH [--width PIXELS] [--version ID]\n"
    ++ "    [--region ID] [--league ID] [--x-axis a|sl] [--y-axis c|g]\n"

/-- Run the command with its words; its exit code. -/
def execute (shell : Shell m) (words : List String) : m UInt32 := do
  match Invocation.parse words with
  | .error .help =>
    shell.print usage
    return 0
  | .error .version =>
    shell.print "ladder-stats 0.1.0\n"
    return 0
  | .error .misuse =>
    shell.complain usage
    return 2
  | .ok i =>
    match ← (run shell i).run with
    | .ok () => return 0
    | .error failure =>
      shell.complain ("Error: " ++ failure.message ++ "\n")
      return failure.exitCode

end LadderAtlas.Command
