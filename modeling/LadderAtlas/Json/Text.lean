import LadderAtlas.Json.Token

/-! # JSON texts

`Json.parse?` reads a text, `Json.parseBytes?` reads bytes, and `Json.render` writes a text without
blanks. Reading runs over the tokens with the open arrays and objects on a stack, so that nesting
costs no recursion; writing lists the tokens of a value.
-/

namespace LadderAtlas.Json

/-- An array or object that is open, with what it holds so far in reverse. -/
inductive Frame where
  | array (items : List Json)
  | object (members : List (Body × Json))
  /-- An object whose member of this name still lacks its value. -/
  | member (members : List (Body × Json)) (name : Body)

/-- What may come next. -/
inductive Expect where
  | firstItem
  | value
  | firstName
  | name
  | colon
  /-- A comma or the end of the innermost array or object. -/
  | separator
  /-- Nothing: the value is complete. -/
  | done (value : Json)

/-- A reading: what may come next inside the open arrays and objects, innermost first. -/
structure Reading where
  expect : Expect
  frames : List Frame

namespace Reading

/-- Put a complete value where it belongs. -/
def complete (value : Json) : List Frame → Option Reading
  | [] => some ⟨.done value, []⟩
  | .array items :: frames => some ⟨.separator, .array (value :: items) :: frames⟩
  | .member members name :: frames =>
    some ⟨.separator, .object ((name, value) :: members) :: frames⟩
  | .object _ :: _ => none

/-- Read the first token of a value. -/
def startValue (frames : List Frame) : Token → Option Reading
  | .null => complete .null frames
  | .bool b => complete (.bool b) frames
  | .number n => complete (.number n) frames
  | .string body => complete (.string body) frames
  | .openArray => some ⟨.firstItem, .array [] :: frames⟩
  | .openObject => some ⟨.firstName, .object [] :: frames⟩
  | _ => none

/-- Read the name of a member. -/
def startMember : List Frame → Token → Option Reading
  | .object members :: frames, .string body => some ⟨.colon, .member members body :: frames⟩
  | _, _ => none

def close : List Frame → Token → Option Reading
  | .array items :: frames, .closeArray => complete (.array items.reverse) frames
  | .object members :: frames, .closeObject => complete (.object members.reverse) frames
  | _, _ => none

def step (r : Reading) (t : Token) : Option Reading :=
  match r.expect with
  | .value => startValue r.frames t
  | .firstItem => if t = .closeArray then close r.frames t else startValue r.frames t
  | .firstName => if t = .closeObject then close r.frames t else startMember r.frames t
  | .name => startMember r.frames t
  | .colon => if t = .colon then some ⟨.value, r.frames⟩ else none
  | .separator =>
    if t = .comma then
      match r.frames with
      | .array _ :: _ => some ⟨.value, r.frames⟩
      | .object _ :: _ => some ⟨.name, r.frames⟩
      | _ => none
    else close r.frames t
  | .done _ => none

def value? (r : Reading) : Option Json :=
  match r.expect with
  | .done value => some value
  | _ => none

end Reading

def ofTokens? (ts : List Token) : Option Json := do
  (← ts.foldlM Reading.step ⟨.value, []⟩).value?

def parse? (text : String) : Option Json := do ofTokens? (← Token.scan text.toList)

/-! ## Bytes -/

/-- The body of a string, from the characters that stand for its bytes. Bytes that are no text stand
    for nothing, which does not matter where the string is skipped over. -/
def bodyOfBytes (body : Body) : Body :=
  match String.fromUTF8? ⟨(body.map fun c => c.toNat.toUInt8).toArray⟩ with
  | some text => text.toList
  | none => ['\\']

def Token.ofBytes : Token → Token
  | .string body => .string (bodyOfBytes body)
  | t => t

/-- Read bytes, those of a text as the text. Others are read as well, since all that has to be a
    text is the strings that are used: each byte counts as the character of its number until it is
    known what is inside of strings. -/
def parseBytes? (bytes : ByteArray) : Option Json :=
  match String.fromUTF8? bytes with
  | some text => parse? text
  | none => do
    let tokens ← Token.scan (bytes.data.toList.map fun b => Char.ofNat b.toNat)
    ofTokens? (tokens.map Token.ofBytes)

/-! ## Writing -/

mutual

def tokensOnto : Json → List Token → List Token
  | .null, rest => .null :: rest
  | .bool b, rest => .bool b :: rest
  | .number n, rest => .number n :: rest
  | .string body, rest => .string body :: rest
  | .array items, rest => .openArray :: itemsOnto items (.closeArray :: rest)
  | .object members, rest => .openObject :: membersOnto members (.closeObject :: rest)

def itemsOnto : List Json → List Token → List Token
  | [], rest => rest
  | [item], rest => tokensOnto item rest
  | item :: items, rest => tokensOnto item (.comma :: itemsOnto items rest)

def membersOnto : List (Body × Json) → List Token → List Token
  | [], rest => rest
  | [(name, value)], rest => .string name :: .colon :: tokensOnto value rest
  | (name, value) :: members, rest =>
    .string name :: .colon :: tokensOnto value (.comma :: membersOnto members rest)

end

/-- The text of a value, without blanks. -/
def render (value : Json) : String :=
  String.ofList ((tokensOnto value []).flatMap Token.chars)

end LadderAtlas.Json
