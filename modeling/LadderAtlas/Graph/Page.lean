import LadderAtlas.Graph.Hover

/-! # Pages

The page that a graph lives on: how much room there is, whether the page shows that it waits for
data, and the tooltip that is shown. A page also keeps what it was told.
-/

namespace LadderAtlas

/-- A tooltip and its place on the canvas. -/
structure Callout (α : Type) where
  tooltip : Tooltip α
  left : α
  top : α
  deriving Repr, DecidableEq

/-- What a graph tells its page. -/
inductive PageEvent (α : Type) where
  | wait
  | ready
  | showTip (callout : Callout α)
  | hideTip
  deriving Repr, DecidableEq

/-- The room for a graph and the state that the page shows. -/
structure Page (α : Type) where
  width : α
  waiting : Bool
  shown : Option (Callout α)
  /-- What the page was told, the latest first. -/
  told : List (PageEvent α)
  deriving Repr

namespace Page

variable {α : Type}

def ofWidth (width : α) : Page α := ⟨width, false, none, []⟩

def tell (p : Page α) (e : PageEvent α) : Page α :=
  let p := { p with told := e :: p.told }
  match e with
  | .wait => { p with waiting := true }
  | .ready => { p with waiting := false }
  | .showTip callout => { p with shown := some callout }
  | .hideTip => { p with shown := none }

end Page

end LadderAtlas
