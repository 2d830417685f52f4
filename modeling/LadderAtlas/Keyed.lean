/-! # Keyed collections

A `Keyed κ β` finds values by key. Every lookup table of the library is one: layouts by stat
version, names by id, control values by name, loaded modes by mode id. Keys keep the order in which
they were first given, and giving a key again replaces its value, so the last value given wins.
-/

namespace LadderAtlas

structure Keyed (κ β : Type) where
  entries : List (κ × β)
  deriving Repr, DecidableEq

namespace Keyed

variable {κ β : Type} [DecidableEq κ]

def empty : Keyed κ β := ⟨[]⟩

instance : Inhabited (Keyed κ β) := ⟨empty⟩

/-- The value of `key` in a list of entries. -/
def find (key : κ) : List (κ × β) → Option β
  | [] => none
  | (k, v) :: rest => if k = key then some v else find key rest

/-- Give `key` the value `value`: in place where the key is known, else at the end. -/
def put (key : κ) (value : β) : List (κ × β) → List (κ × β)
  | [] => [(key, value)]
  | (k, v) :: rest => if k = key then (key, value) :: rest else (k, v) :: put key value rest

/-- The value given to `key` last. -/
def get? (m : Keyed κ β) (key : κ) : Option β := find key m.entries

def contains (m : Keyed κ β) (key : κ) : Bool := (m.get? key).isSome

/-- `m` with `key` given the value `value`. -/
def insert (m : Keyed κ β) (key : κ) (value : β) : Keyed κ β := ⟨put key value m.entries⟩

/-- `m` with all of `entries` given in turn, so that a later entry of a key wins. -/
def insertAll (m : Keyed κ β) (entries : List (κ × β)) : Keyed κ β :=
  entries.foldl (fun m e => m.insert e.1 e.2) m

/-- The collection of a list of entries; of a repeated key the last entry wins. -/
def ofList (entries : List (κ × β)) : Keyed κ β := empty.insertAll entries

def keys (m : Keyed κ β) : List κ := m.entries.map (·.1)

theorem find_put (key k : κ) (value : β) (entries : List (κ × β)) :
    find k (put key value entries) = if key = k then some value else find k entries := by
  induction entries with
  | nil => simp [put, find]
  | cons e rest ih =>
    obtain ⟨k', v'⟩ := e
    by_cases hk : k' = key
    · subst hk
      by_cases h : k' = k <;> simp [put, find, h]
    · by_cases h : k' = k
      · subst h
        have : key ≠ k' := fun e => hk e.symm
        simp [put, find, hk, this]
      · simp [put, find, hk, h, ih]

/-- A key reads back the value it was given; every other key is untouched. -/
theorem get?_insert (m : Keyed κ β) (key k : κ) (value : β) :
    (m.insert key value).get? k = if key = k then some value else m.get? k :=
  find_put key k value m.entries

@[simp] theorem get?_empty (k : κ) : (empty : Keyed κ β).get? k = none := rfl

/-- Of several entries of a key the last one wins, also over what was there before. -/
theorem get?_insertAll (m : Keyed κ β) (entries : List (κ × β)) (k : κ) :
    (m.insertAll entries).get? k =
      ((entries.reverse.find? fun e => e.1 = k).map (·.2)).or (m.get? k) := by
  induction entries generalizing m with
  | nil => rfl
  | cons e entries ih =>
    have step : (m.insertAll (e :: entries)).get? k =
        ((m.insert e.1 e.2).insertAll entries).get? k := rfl
    rw [step, ih, get?_insert, List.reverse_cons, List.find?_append]
    cases found : entries.reverse.find? fun e => e.1 = k with
    | some last => rfl
    | none => by_cases same : e.1 = k <;> simp [same]

theorem get?_ofList (entries : List (κ × β)) (k : κ) :
    (ofList entries).get? k = (entries.reverse.find? fun e => e.1 = k).map (·.2) := by
  simp [ofList, get?_insertAll]

end Keyed

end LadderAtlas
