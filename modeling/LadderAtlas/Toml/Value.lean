import LadderAtlas.Number.Binary64
import LadderAtlas.Number.Numeral

/-! # TOML values

The values of a configuration file, and how tables grow. A table remembers how it came about,
because that decides what may still be added to it: a table with a header of its own takes no second
header, a table made by a dotted key takes further dotted keys only, and an inline table takes
nothing at all.
-/

namespace LadderAtlas.Toml

/-- How a table came about. -/
inductive Origin where
  /-- It has a header. -/
  | header
  /-- It is only named inside the header of another table. -/
  | implied
  /-- It is only named inside a dotted key. -/
  | dotted
  /-- It is written within braces. -/
  | inline
  deriving Repr, DecidableEq

inductive Value where
  | string (text : String)
  | integer (value : Int)
  | float (value : Float)
  | boolean (value : Bool)
  /-- A date, a time or both. -/
  | moment
  | array (items : List Value)
  | table (origin : Origin) (entries : List (String × Value))
  /-- The tables of one doubly bracketed header, the last one first. -/
  | tables (reversed : List (List (String × Value)))

abbrev Entries := List (String × Value)

namespace Entries

def find? (key : String) : Entries → Option Value
  | [] => none
  | (k, v) :: rest => if k = key then some v else find? key rest

def put (key : String) (value : Value) : Entries → Entries
  | [] => [(key, value)]
  | (k, v) :: rest => if k = key then (k, value) :: rest else (k, v) :: put key value rest

/-- Add a value under a dotted key. The tables on the way must have been made by dotted keys, but
    for those that are only implied by headers and for the last table of a doubly bracketed header;
    the innermost one never is one of those. -/
def addDotted (key : String) (value : Value) : (path : List String) → Entries → Option Entries
  | [], entries =>
    match find? key entries with
    | none => some (put key value entries)
    | some _ => none
  | part :: path, entries =>
    match find? part entries with
    | none => do return put part (.table .dotted (← addDotted key value path [])) entries
    | some (.table .dotted inner) => do
      return put part (.table .dotted (← addDotted key value path inner)) entries
    | some (.table .implied inner) =>
      if path.isEmpty then none
      else do return put part (.table .implied (← addDotted key value path inner)) entries
    | some (.tables (last :: others)) =>
      if path.isEmpty then none
      else do return put part (.tables ((← addDotted key value path last) :: others)) entries
    | some _ => none

/-- Change the table at the path of a header, tables on the way being implied where they are
    missing. Of the tables of a doubly bracketed header the last one is meant. -/
def within (change : Entries → Option Entries) : (path : List String) → Entries → Option Entries
  | [], entries => change entries
  | part :: path, entries =>
    match find? part entries with
    | none => do return put part (.table .implied (← within change path [])) entries
    | some (.table .inline _) => none
    | some (.table origin inner) => do
      return put part (.table origin (← within change path inner)) entries
    | some (.tables (last :: others)) => do
      return put part (.tables ((← within change path last) :: others)) entries
    | some _ => none

/-- Open the table of a header. A table that was only implied so far keeps what it has. -/
def openTable (key : String) (entries : Entries) : Option Entries :=
  match find? key entries with
  | none => some (put key (.table .header []) entries)
  | some (.table .implied inner) => some (put key (.table .header inner) entries)
  | some _ => none

/-- Open a further table of a doubly bracketed header. -/
def openNext (key : String) (entries : Entries) : Option Entries :=
  match find? key entries with
  | none => some (put key (.tables [[]]) entries)
  | some (.tables others) => some (put key (.tables ([] :: others)) entries)
  | some _ => none

end Entries

/-! ## What values stand for -/

/-- The values found for the names of a record, in the order of the names. -/
abbrev Fields := List (String × Option Value)

namespace Fields

def required {β : Type} (fields : Fields) (name : String) (read? : Value → Option β) : Option β :=
  match fields.lookup name with
  | some (some value) => read? value
  | _ => none

def optional {β : Type} (fields : Fields) (name : String) (read? : Value → Option β)
    (fallback : β) :
    Option β :=
  match fields.lookup name with
  | some (some value) => read? value
  | _ => some fallback

end Fields

namespace Value

def text? : Value → Option String
  | .string text => some text
  | _ => none

def int? : Value → Option Int
  | .integer value => some value
  | _ => none

def double? : Value → Option Float
  | .float value => some value
  | .integer value => some (Binary64.ofInt value)
  | _ => none

/-- The fields of a record with these names: those of a table by name, or those of an array by
    order. A moment is a record of none of them. What is not asked for is skipped. -/
def fields? (names : List String) : Value → Option Fields
  | .table _ entries => some (names.map fun name => (name, Entries.find? name entries))
  | .array items => some (names.zipIdx.map fun (name, k) => (name, items[k]?))
  | .tables reversed =>
    let items := reversed.reverse.map (Value.table .header)
    some (names.zipIdx.map fun (name, k) => (name, items[k]?))
  | .moment => some (names.map fun name => (name, none))
  | _ => none

end Value

end LadderAtlas.Toml
