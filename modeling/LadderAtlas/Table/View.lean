import LadderAtlas.Graph.Error
import LadderAtlas.Settings
import LadderAtlas.Table.Basic

/-! # Table views

A table view waits for a source of tables, and from then on shows the source's table for the current
controls. While a source refuses the controls the last table stays.
-/

namespace LadderAtlas

abbrev TableSource := Settings → Except GraphError Table

/-- The controls of a table, its source once there is one, and the table that is shown. -/
structure TableView where
  settings : Settings
  source : Option TableSource
  table : Option Table

namespace TableView

def new (settings : Settings) : TableView := ⟨settings, none, none⟩

def isWaiting (v : TableView) : Bool := v.source.isNone

/-- Install a source. If it refuses the controls, everything stays as it is. -/
def init (v : TableView) (source : TableSource) : TableView × Except GraphError Unit :=
  match source v.settings with
  | .ok table => ({ v with source := some source, table := some table }, .ok ())
  | .error e => (v, .error e)

def setControl (v : TableView) (name value : String) : TableView × Except GraphError Unit :=
  let v := { v with settings := v.settings.set name value }
  match v.source with
  | none => (v, .ok ())
  | some source =>
    match source v.settings with
    | .ok table => ({ v with table := some table }, .ok ())
    | .error e => (v, .error e)

/-! ## Events -/

/-- What can happen to a table view, in any order. -/
inductive Event where
  | init (source : TableSource)
  | setControl (name value : String)

def step (v : TableView) : Event → TableView × Except GraphError Unit
  | .init source => v.init source
  | .setControl name value => v.setControl name value

/-- The view after events in a row. An event that fails leaves a view as well. -/
def after (v : TableView) (events : List Event) : TableView :=
  events.foldl (fun v e => (v.step e).1) v

end TableView

end LadderAtlas
