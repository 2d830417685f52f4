import LadderAtlas.Record

/-! # Collections

A collection holds records in order of time. It is filled once and never changed.
-/

namespace LadderAtlas

/-- Records, oldest first. -/
structure Collection (ρ : Type) where
  records : List ρ
  deriving Repr

namespace Collection

variable {ρ : Type}

/-- Walk to the first record of the given id, keeping the record last met. -/
def seek [Record ρ] (id : Int64) : (met : Option ρ) → List ρ → Option ρ
  | met, [] => met
  | _, r :: rest => if Record.id r = id then some r else seek id (some r) rest

/-- The first record of the given id; where there is none, the last record. -/
def get? [Record ρ] (c : Collection ρ) (id : Int64) : Option ρ := seek id none c.records

def last? (c : Collection ρ) : Option ρ := c.records.getLast?

/-- The records whose season offers at least the given version, oldest first. -/
def oldestFirst [Record ρ] (c : Collection ρ) (least : Option Id) : List ρ :=
  match least with
  | none => c.records
  | some version => c.records.filter fun r => decide (version ≤ Record.seasonVersion r)

/-- The records of `oldestFirst`, newest first. -/
def newestFirst [Record ρ] (c : Collection ρ) (least : Option Id) : List ρ :=
  (c.oldestFirst least).reverse

def size (c : Collection ρ) : Nat := c.records.length

def isEmpty (c : Collection ρ) : Bool := c.records.isEmpty

end Collection

end LadderAtlas
