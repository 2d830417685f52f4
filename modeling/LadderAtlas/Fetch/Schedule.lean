import LadderAtlas.Fetch.Store

/-! # Calls on a store at the same time

Calls come to a store in any number and take their steps in any order. A call that fetches a mode
takes the current cell of the mode; if it finds the cell idle it asks the source on the cell's
behalf and settles the cell by the answer, else it waits until the cell is settled. An answer that
ends the program is none that anybody goes on from. Calls that replace a mode and calls that look a
loaded one up are done in a single step. What a call has returned stays on record. A run is a list
of moves, and everything that holds of all runs holds whatever the callers do.
-/

namespace LadderAtlas

/-- How far a call has come. -/
inductive Call where
  /-- It wants to fetch a mode and has no cell yet. -/
  | wanting (mode : Id)
  /-- It has taken a cell. -/
  | holding (mode : Id) (cell : Nat)
  /-- It has asked the source on behalf of its cell. -/
  | asking (mode : Id) (cell : Nat)
  /-- It has returned what its cell was settled to. -/
  | returned (mode : Id) (cell : Nat) (result : FetchedMode)
  /-- It has replaced a mode and returned the new one with its cell, or has failed to. -/
  | replaced (mode : Id) (result : Except StoreError (Nat × Mode Float))
  /-- It has looked a loaded mode up. -/
  | looked (mode : Id) (found : Option (Nat × Mode Float))

/-- A store and all the calls there ever were on it. -/
structure Traffic where
  store : Store
  calls : List Call
  /-- The modes that the source was asked for, the latest first. -/
  asked : List Id

namespace Traffic

def quiet : Traffic := ⟨.empty, [], []⟩

/-- A step of a call. Calls are told apart by the order in which they came. -/
inductive Move where
  | come (mode : Id)
  /-- A call takes the current cell of its mode. -/
  | take (call : Nat)
  /-- A call finds its cell idle and asks the source. -/
  | ask (call : Nat)
  | answer (call : Nat) (answer : Except FetchError (List (Snapshot Float)))
  /-- A call finds its cell settled and returns. -/
  | read (call : Nat)
  | replace (mode : Id) (snapshots : List (Snapshot Float))
  | look (mode : Id)

def put (t : Traffic) (call : Nat) (state : Call) : Traffic :=
  { t with calls := t.calls.set call state }

/-- What a move does, if it can be made. -/
def move? (catalog : Catalog) (t : Traffic) : Move → Option Traffic
  | .come mode => some { t with calls := t.calls ++ [.wanting mode] }
  | .take call =>
    match t.calls[call]? with
    | some (.wanting mode) =>
      let (store, cell) := t.store.take mode
      some ({ t with store := store }.put call (.holding mode cell))
    | _ => none
  | .ask call =>
    match t.calls[call]? with
    | some (.holding mode cell) =>
      match t.store.start? cell with
      | some store =>
        some ({ t with store := store, asked := mode :: t.asked }.put call (.asking mode cell))
      | none => none
    | _ => none
  | .answer call answer =>
    match t.calls[call]? with
    | some (.asking mode cell) =>
      let result := Store.check catalog mode answer
      if Store.panics result then none
      else some ({ t with
        store := t.store.settle cell result }.put call (.returned mode cell result))
    | _ => none
  | .read call =>
    match t.calls[call]? with
    | some (.holding mode cell) =>
      (t.store.result? cell).map fun result => t.put call (.returned mode cell result)
    | _ => none
  | .replace mode snapshots =>
    let (store, result) := t.store.replace catalog mode snapshots
    some { t with store := store, calls := t.calls ++ [.replaced mode result] }
  | .look mode => some { t with calls := t.calls ++ [.looked mode (t.store.loaded? mode)] }

/-- Make moves in a row, if all of them can be made. -/
def run? (catalog : Catalog) (t : Traffic) (moves : List Move) : Option Traffic :=
  moves.foldlM (move? catalog) t

end Traffic

end LadderAtlas
