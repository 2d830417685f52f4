import LadderAtlas.Keyed

/-! # Dimensions

A snapshot is broken down by four dimensions. Values of each dimension, and modes, are named by ids.
`ByDimension` holds one thing per dimension and is what filters, layouts and id lists are made of.
-/

namespace LadderAtlas

/-- The id of a version, region, league, race or mode. -/
abbrev Id := Int32

namespace Id

/-- Stands for all values of a dimension in controls. -/
def all : Id := -2

/-- An unknown value. An unknown race is counted in snapshots like any other. -/
def unknown : Id := -1

end Id

/-- What a snapshot is broken down by, from the slowest varying to the fastest. -/
inductive Dimension where
  | version
  | region
  | league
  | race
  deriving Repr, DecidableEq

namespace Dimension

def inOrder : List Dimension := [.version, .region, .league, .race]

def singular : Dimension → String
  | .version => "version"
  | .region => "region"
  | .league => "league"
  | .race => "race"

def plural : Dimension → String
  | .version => "versions"
  | .region => "regions"
  | .league => "leagues"
  | .race => "races"

def ofName? (name : String) : Option Dimension :=
  inOrder.find? fun d => d.singular == name || d.plural == name

end Dimension

/-- A name that is not one of a dimension. -/
structure UnknownDimension where
  name : String
  deriving Repr, DecidableEq

def UnknownDimension.message (e : UnknownDimension) : String := "unknown dimension: " ++ e.name

def Dimension.ofName (name : String) : Except UnknownDimension Dimension :=
  match ofName? name with
  | some d => .ok d
  | none => .error ⟨name⟩

structure ByDimension (β : Type) where
  version : β
  region : β
  league : β
  race : β
  deriving Repr, DecidableEq

namespace ByDimension

variable {β γ : Type}

def get (q : ByDimension β) : Dimension → β
  | .version => q.version
  | .region => q.region
  | .league => q.league
  | .race => q.race

def set (q : ByDimension β) (d : Dimension) (value : β) : ByDimension β :=
  match d with
  | .version => { q with version := value }
  | .region => { q with region := value }
  | .league => { q with league := value }
  | .race => { q with race := value }

def ofFn (f : Dimension → β) : ByDimension β :=
  ⟨f .version, f .region, f .league, f .race⟩

def ofFnM? (f : Dimension → Option β) : Option (ByDimension β) := do
  return ⟨← f .version, ← f .region, ← f .league, ← f .race⟩

def toList (q : ByDimension β) : List β := [q.version, q.region, q.league, q.race]

@[simp] theorem get_ofFn (f : Dimension → β) (d : Dimension) : (ofFn f).get d = f d := by
  cases d <;> rfl

/-- A dimension reads back what it was given; the others are untouched. -/
theorem get_set (q : ByDimension β) (d e : Dimension) (value : β) :
    (q.set d value).get e = if d = e then value else q.get e := by
  cases d <;> cases e <;> rfl

end ByDimension

end LadderAtlas
