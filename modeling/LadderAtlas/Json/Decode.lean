import LadderAtlas.Json.Text
import LadderAtlas.Keyed

/-! # Reading records from JSON

What a JSON value stands for as a number, a text, a list, a collection or a record. A record is
written as an object by field names or as an array by field order. Unknown names are skipped, a
known name must not come twice, and whether a field may be missing is up to the field.
-/

namespace LadderAtlas.Json

def int? : Json → Option Int
  | .number n => n.integer?
  | _ => none

def int32? (j : Json) : Option Int32 := j.int? >>= Numeral.toInt32?

def int64? (j : Json) : Option Int64 := j.int? >>= Numeral.toInt64?

def uint32? (j : Json) : Option UInt32 := j.int? >>= Numeral.toUInt32?

def count? (j : Json) : Option Nat := j.int? >>= Numeral.toCount?

def double? : Json → Option Float
  | .number n => n.double?
  | _ => none

def text? : Json → Option String
  | .string body => (decode? body).map String.ofList
  | _ => none

def list? {β : Type} (item? : Json → Option β) : Json → Option (List β)
  | .array items => items.mapM item?
  | _ => none

/-- A value or null. -/
def nullable? {β : Type} (value? : Json → Option β) : Json → Option (Option β)
  | .null => some none
  | j => (value? j).map some

/-- The integer that a name is, written like an integer value and without escapes. -/
def nameInt? (name : Body) : Option Int := Number.ofChars? name >>= Number.integer?

/-- The collection that an object is; of a repeated key the last member wins. -/
def keyed? {κ β : Type} [DecidableEq κ] (key? : Int → Option κ) (value? : Json → Option β) :
    Json → Option (Keyed κ β)
  | .object members => do
    return Keyed.ofList (← members.mapM fun (name, j) => do
      return (← nameInt? name >>= key?, ← value? j))
  | _ => none

/-! ## Records -/

/-- The fields found for the names of a record, in the order of the names. -/
abbrev Fields := List (String × Option Json)

/-- Put a member where its name is; a name that has its value already is refused. -/
def placeMember (name : String) (value : Json) : Fields → Option Fields
  | [] => some []
  | (field, found) :: rest =>
    if field = name then
      match found with
      | none => some ((field, some value) :: rest)
      | some _ => none
    else do return (field, found) :: (← placeMember name value rest)

/-- Put the items of an array in the fields in order; more items than fields are refused. -/
def placeItems : List Json → Fields → Option Fields
  | [], fields => some fields
  | _ :: _, [] => none
  | item :: items, (field, _) :: rest => do return (field, some item) :: (← placeItems items rest)

def fields? (names : List String) (j : Json) : Option Fields :=
  let blank : Fields := names.map fun name => (name, none)
  match j with
  | .object members =>
    members.foldlM (fun fields (name, value) => do
      placeMember (String.ofList (← decode? name)) value fields) blank
  | .array items => placeItems items blank
  | _ => none

namespace Fields

def value? (fields : Fields) (name : String) : Option Json :=
  match fields.find? (fun field => field.1 == name) with
  | some (_, found) => found
  | none => none

def required {β : Type} (fields : Fields) (name : String) (read : Json → Option β) : Option β :=
  fields.value? name >>= read

/-- A field that stands for `fallback` where it is missing. -/
def optional {β : Type} (fields : Fields) (name : String) (read : Json → Option β) (fallback : β) :
    Option β :=
  match fields.value? name with
  | some j => read j
  | none => some fallback

end Fields

end LadderAtlas.Json
