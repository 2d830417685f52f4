import LadderAtlas.Fetch.Source
import LadderAtlas.Stats.Mode

/-! # The store of modes

A store fetches each mode at most once. Callers that want the same mode share one cell: the first of
them to find it idle asks the source, the others wait, and what the source answers settles the cell
for good, a failure like a success. Only a panic settles nothing. Replacing a mode puts a settled
cell of its own in place of the cell that callers are given from then on; whoever holds the old cell
keeps it. Cells are only ever added, so the number of a cell tells modes apart.

The operations here are the indivisible steps of calls; `fetch` puts them in a row for a caller who
is alone, and `Fetch.Schedule` interleaves those of many.
-/

namespace LadderAtlas

/-- Why a mode could not be had. -/
structure StoreError where
  mode : Id
  cause : FetchError
  deriving Repr, DecidableEq

namespace StoreError

def message (e : StoreError) : String :=
  "Fetching mode " ++ Numeral.text e.mode.toInt ++ " failed: " ++ e.cause.message

def isPanic (e : StoreError) : Bool := e.cause.isPanic

end StoreError

/-- What callers get: the mode, or why there is none. -/
abbrev FetchedMode := Except StoreError (Mode Float)

/-- One fetch of a mode. -/
inductive Cell where
  /-- Nobody has asked the source yet. -/
  | idle
  /-- Somebody is asking the source. -/
  | loading
  /-- The answer is there. -/
  | settled (result : FetchedMode)

/-- All cells there ever were, and the one that is current for each mode. -/
structure Store where
  cells : List Cell
  current : Keyed Id Nat

namespace Store

def empty : Store := ⟨[], .empty⟩

/-- Add a cell and make it the current one of a mode; its number comes with the store. -/
def add (s : Store) (mode : Id) (cell : Cell) : Store × Nat :=
  (⟨s.cells ++ [cell], s.current.insert mode s.cells.length⟩, s.cells.length)

/-- The number of the current cell of a mode, which is added where there is none. -/
def take (s : Store) (mode : Id) : Store × Nat :=
  match s.current.get? mode with
  | some cell => (s, cell)
  | none => s.add mode .idle

def put (s : Store) (cell : Nat) (state : Cell) : Store :=
  { s with cells := s.cells.set cell state }

/-- Start to ask the source on behalf of a cell, where nobody has. -/
def start? (s : Store) (cell : Nat) : Option Store :=
  match s.cells[cell]? with
  | some .idle => some (s.put cell .loading)
  | _ => none

def settle (s : Store) (cell : Nat) (result : FetchedMode) : Store := s.put cell (.settled result)

/-- Whether checking an answer ends the program, so that there is no result. -/
def panics : FetchedMode → Bool
  | .ok _ => false
  | .error e => e.isPanic

/-- A fetch settles its cell. A panic leaves the cell as if nobody had asked. -/
def afterFetch (s : Store) (cell : Nat) (result : FetchedMode) : Store :=
  if panics result then s else s.settle cell result

def result? (s : Store) (cell : Nat) : Option FetchedMode :=
  match s.cells[cell]? with
  | some (.settled result) => some result
  | _ => none

/-- Check what a source has answered about a mode. -/
def check (catalog : Catalog) (mode : Id) (answer : Except FetchError (List (Snapshot Float))) :
    FetchedMode :=
  match answer with
  | .error cause => .error ⟨mode, cause⟩
  | .ok snapshots =>
    match Mode.ofSnapshots catalog mode snapshots with
    | .ok loaded => .ok loaded
    | .error problem => .error ⟨mode, .stats problem⟩

/-- The mode of a settled cell, with the number of the cell. -/
def modeOf (cell : Nat) : FetchedMode → Except StoreError (Nat × Mode Float)
  | .ok mode => .ok (cell, mode)
  | .error e => .error e

/-- A mode that is loaded, without fetching. -/
def loaded? (s : Store) (mode : Id) : Option (Nat × Mode Float) := do
  let cell ← s.current.get? mode
  match ← s.result? cell with
  | .ok loaded => some (cell, loaded)
  | .error _ => none

/-- Put other snapshots in place of a mode's. Snapshots that do not fit the catalog change
    nothing. -/
def replace (s : Store) (catalog : Catalog) (mode : Id) (snapshots : List (Snapshot Float)) :
    Store × Except StoreError (Nat × Mode Float) :=
  match check catalog mode (.ok snapshots) with
  | .error e => (s, .error e)
  | .ok loaded =>
    let (s, cell) := s.add mode (.settled (.ok loaded))
    (s, .ok (cell, loaded))

/-- The mode, fetched where it is asked for the first time. -/
def fetch {m : Type → Type} [Monad m] (source : SnapshotSource m) (catalog : Catalog) (s : Store)
    (mode : Id) : m (Store × Except StoreError (Nat × Mode Float)) := do
  let (s, cell) := s.take mode
  match s.result? cell with
  | some result => return (s, modeOf cell result)
  | none =>
    let result := check catalog mode (← source.fetchMode mode)
    return (s.afterFetch cell result, modeOf cell result)

end Store

end LadderAtlas
