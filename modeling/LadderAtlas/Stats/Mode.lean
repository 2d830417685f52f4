import LadderAtlas.Stats.Aggregate
import LadderAtlas.Stats.Collection
import LadderAtlas.Catalog

/-! # Modes

A mode is a collection of snapshots that have all been checked against the catalog. While they are
checked, one layout is kept for each stat version; from these each snapshot gets its own as a
`Stat`, so reading a mode never asks the catalog again.
-/

namespace LadderAtlas

/-- A snapshot and the layout of its stat version. -/
structure Stat (α : Type) where
  layout : Layout
  snapshot : Snapshot α

namespace Stat

variable {α : Type} [Scalar α]

instance : Record (Stat α) where
  id := (·.snapshot.id)
  seasonVersion := (·.snapshot.seasonVersion)
  time := (·.snapshot.time)

def id (s : Stat α) : Int64 := s.snapshot.id

def season (s : Stat α) : Int32 := s.snapshot.season

def time (s : Stat α) : Int64 := s.snapshot.time

def cell? [Build] (s : Stat α) (c : Coordinate) : Option (List α) :=
  s.layout.cell? s.snapshot.data c

/-- The sum of the cells that a filter lets through. -/
def sum [Build] (s : Stat α) (f : Filter) : Except StatsError (Tally α) :=
  match sumCells s.layout s.snapshot.data (f.resolve s.layout) with
  | some t => .ok t
  | none => .error .unplacedCell

/-- The cells that a filter lets through, broken out by `groupBy`. -/
def aggregate [Build] (s : Stat α) (f : Filter) (groupBy : List Dimension) :
    Except StatsError (Aggregate α) :=
  let selection := f.resolve s.layout
  match LadderAtlas.aggregate s.layout s.snapshot.data selection groupBy with
  | some root => .ok ⟨selection, groupBy, root⟩
  | none => .error .unplacedCell

end Stat

variable {α : Type}

/-- Refuse a snapshot whose array does not have the length that the layout asks for. -/
def Layout.validate [Build] (l : Layout) (s : Snapshot α) : Except StatsError Unit :=
  match l.dataLength? with
  | none => .error .overflow
  | some length =>
    if s.data.size = length then .ok () else .error (.dataLength s.id length s.data.size)

/-- Pair a snapshot with its layout, or say why it has none. -/
def Catalog.stat [Build] (c : Catalog) (s : Snapshot α) : Except StatsError (Stat α) :=
  match c.layout? s.statVersion with
  | none => .error (.unknownStatVersion s.statVersion)
  | some layout => do
    layout.validate s
    return ⟨layout, s⟩

/-- Check a snapshot, and keep its layout where none is kept for its stat version yet. -/
def Catalog.keepLayout [Build] (c : Catalog) (kept : Keyed UInt32 Layout) (s : Snapshot α) :
    Except StatsError (Keyed UInt32 Layout) := do
  let stat ← c.stat s
  return if kept.contains s.statVersion then kept else kept.insert s.statVersion stat.layout

/-- A snapshot with the layout that is kept for its stat version. -/
def Stat.ofKept (kept : Keyed UInt32 Layout) (s : Snapshot α) : Except StatsError (Stat α) :=
  match kept.get? s.statVersion with
  | some layout => .ok ⟨layout, s⟩
  | none => .error (.unknownStatVersion s.statVersion)

/-- All snapshots of a mode, each with its layout. -/
structure Mode (α : Type) where
  id : Id
  stats : Collection (Stat α)

namespace Mode

/-- Check the snapshots in order; the first one refused refuses all. -/
def ofSnapshots [Build] (c : Catalog) (id : Id) (snapshots : List (Snapshot α)) :
    Except StatsError (Mode α) := do
  let kept ← snapshots.foldlM c.keepLayout .empty
  return ⟨id, ⟨← snapshots.mapM (Stat.ofKept kept)⟩⟩

variable [Scalar α]

/-- The stat of a snapshot id; where there is none, the last one. -/
def get? (m : Mode α) (id : Int64) : Option (Stat α) := m.stats.get? id

def last? (m : Mode α) : Option (Stat α) := m.stats.last?

/-- The last stat; without any this is an error. -/
def last (m : Mode α) : Except StatsError (Stat α) :=
  match m.last? with
  | some s => .ok s
  | none => .error .emptyCollection

/-- The stats whose season offers at least the given version, oldest first. -/
def oldestFirst (m : Mode α) (least : Option Id) : List (Stat α) := m.stats.oldestFirst least

def newestFirst (m : Mode α) (least : Option Id) : List (Stat α) := m.stats.newestFirst least

def snapshots (m : Mode α) : List (Snapshot α) := m.stats.records.map (·.snapshot)

def size (m : Mode α) : Nat := m.stats.size

end Mode

end LadderAtlas
