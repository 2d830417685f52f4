import LadderAtlas.Command.Words
import LadderAtlas.Dimension
import LadderAtlas.Number.Reading

/-! # What the command is asked to do

A command line has general options, the name of a task, and the options of the task. It is read as a
whole before anything is done.
-/

namespace LadderAtlas.Command

inductive ChartKind where
  | race
  | league
  | population
  deriving Repr, DecidableEq

def ChartKind.ofName? : String → Option ChartKind
  | "race" => some .race
  | "league" => some .league
  | "population" => some .population
  | _ => none

structure TablesTask where
  mode : Id
  version : Option Id
  region : Option Id
  deriving Repr, DecidableEq

structure RenderTask where
  chart : ChartKind
  mode : Id
  out : String
  width : Float
  version : Option Id
  region : Option Id
  league : Option Id
  xAxis : String
  yAxis : String
  deriving Repr

/-- What is to be done. -/
inductive Task where
  | tables (task : TablesTask)
  | history (team : Int64)
  | render (task : RenderTask)
  deriving Repr

structure Invocation where
  configPath : String
  /-- The directory that counts instead of the configured one. -/
  dataDirectory : Option String
  /-- The log level that counts instead of the configured one. -/
  logLevel : Option String
  jsonLogs : Bool
  task : Task
  deriving Repr

namespace Words

def optional {β : Type} (w : Words) (name : String) (read? : String → Option β) :
    Except Halt (Option β) :=
  match w.value? name with
  | .none => .ok .none
  | some value =>
    match read? value with
    | some x => .ok (some x)
    | .none => .error .misuse

def required {β : Type} (w : Words) (name : String) (read? : String → Option β) :
    Except Halt β := do
  match ← w.optional name read? with
  | some x => .ok x
  | .none => .error .misuse

end Words

namespace Invocation

def id? (word : String) : Option Id := Numeral.int32? word.toList

def team? (word : String) : Option Int64 := Numeral.int64? word.toList

def path? (word : String) : Option String := if word.isEmpty then none else some word

def width? (word : String) : Option Float := Numeral.double? word.toList

def reads {β : Type} (read? : String → Option β) : Check := fun word => (read? word).isSome

def anyWord : Check := fun _ => true

def tablesWords : WordTable where
  valued := [("mode", reads id?), ("version", reads id?), ("region", reads id?)]
  flags := []
  plain := []
  hasVersion := false

def tables (words : List String) : Except Halt Task := do
  let w ← Words.readAll tablesWords words
  return .tables {
    mode := ← w.required "mode" id?
    version := ← w.optional "version" id?
    region := ← w.optional "region" id? }

def historyWords : WordTable := ⟨[("team", reads team?)], [], [], false⟩

def history (words : List String) : Except Halt Task := do
  let w ← Words.readAll historyWords words
  return .history (← w.required "team" team?)

def renderWords : WordTable where
  valued :=
    [("mode", reads id?), ("out", reads path?), ("width", reads width?), ("version", reads id?),
      ("region", reads id?), ("league", reads id?), ("x-axis", anyWord), ("y-axis", anyWord)]
  flags := []
  plain := [reads ChartKind.ofName?]
  hasVersion := false

def chart (w : Words) : Except Halt ChartKind :=
  match w.plain.head? >>= ChartKind.ofName? with
  | some kind => .ok kind
  | none => .error .misuse

def render (words : List String) : Except Halt Task := do
  let w ← Words.readAll renderWords words
  return .render {
    chart := ← chart w
    mode := ← w.required "mode" id?
    out := ← w.required "out" path?
    width := (← w.optional "width" width?).getD 1200
    version := ← w.optional "version" id?
    region := ← w.optional "region" id?
    league := ← w.optional "league" id?
    xAxis := (← w.optional "x-axis" some).getD "a"
    yAxis := (← w.optional "y-axis" some).getD "c" }

def taskNames : List String := ["tables", "history", "render", "help"]

def help : List String → Halt
  | [] => .help
  | [name] => if taskNames.contains name then .help else .misuse
  | _ => .misuse

def taskOf (name : String) (words : List String) : Except Halt Task :=
  match name with
  | "tables" => tables words
  | "history" => history words
  | "render" => render words
  | "help" => .error (help words)
  | _ => .error .misuse

/-- The words before the name of a task, and the name. -/
def generalWords : WordTable where
  valued := [("config", reads path?), ("data-dir", reads path?), ("log-level", anyWord)]
  flags := ["json-logs"]
  plain := [anyWord]
  hasVersion := true

/-- Read general words up to the name of a task, and then the task. -/
def readFrom (w : Words) : List String → Except Halt Invocation
  | [] => .error .misuse
  | word :: rest => do
    let w ← w.read generalWords word
    match w.plain with
    | [] => readFrom w rest
    | name :: _ =>
      if w.marked then .error .misuse
      else
        let task ← taskOf name rest
        return {
          configPath := (← w.optional "config" path?).getD "./config.toml"
          dataDirectory := ← w.optional "data-dir" path?
          logLevel := ← w.optional "log-level" some
          jsonLogs := w.has "json-logs"
          task := task }

def parse (words : List String) : Except Halt Invocation := readFrom .none words

end Invocation

end LadderAtlas.Command
