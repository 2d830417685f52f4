import LadderAtlas.Fetch.Exchange

/-! # Requests and responses as bytes

A request is a head of lines. A response is a status line, headers up to an empty line, and a body,
which is in chunks, or of a length that a header gives, or all that comes until the connection is
closed.
-/

namespace LadderAtlas

/-- The bytes of a request. The connection is to be closed after the response. -/
def Request.bytes (r : Request) : ByteArray :=
  let port := match r.url.authority.bind Authority.port with
    | some n => ":" ++ Numeral.text n
    | none => ""
  let lines :=
    [r.line, "host: " ++ r.host ++ port, "user-agent: " ++ r.userAgent, "accept: */*",
      "connection: close", "", ""]
  ("\r\n".intercalate lines).toUTF8

namespace Wire

/-- The place of the line end that comes next, among the `bound` bytes from `start` on. -/
def lineEnd? (bytes : ByteArray) : (bound start : Nat) → Option Nat
  | 0, _ => none
  | bound + 1, start =>
    if bytes[start]? = some 13 && bytes[start + 1]? = some 10 then some start
    else lineEnd? bytes bound (start + 1)

/-- The line from `start` on, and where the next one starts. -/
def line? (bytes : ByteArray) (start : Nat) : Option (List Char × Nat) := do
  let finish ← lineEnd? bytes (bytes.size - start) start
  let line := (bytes.extract start finish).toList.map fun b => Char.ofNat b.toNat
  return (line, finish + 2)

/-- A header, its name in lower case. -/
abbrev Header := List Char × List Char

def header (line : List Char) : Header :=
  let value := (line.dropWhile (· != ':')).drop 1
  ((line.takeWhile (· != ':')).map Char.toLower, FetchOptions.trimHeader (String.ofList value))

/-- The headers up to the empty line, `bound` of them at most, and where the body starts. -/
def headers? (bytes : ByteArray) : (bound start : Nat) → Option (List Header × Nat)
  | 0, _ => none
  | bound + 1, start => do
    let (line, next) ← line? bytes start
    if line.isEmpty then return ([], next)
    let (rest, body) ← headers? bytes bound next
    return (header line :: rest, body)

def value? (headers : List Header) (name : String) : Option (List Char) :=
  headers.lookup name.toList

def status? (line : List Char) : Option Nat :=
  Numeral.natural? 10 (((line.dropWhile (· != ' ')).drop 1).takeWhile (· != ' '))

/-- The chunks from `start` on, `bound` of them at most, put together. -/
def chunks? (bytes : ByteArray) : (bound start : Nat) → Option ByteArray
  | 0, _ => none
  | bound + 1, start => do
    let (line, next) ← line? bytes start
    let size ← Numeral.natural? 16 (Text.trim (line.takeWhile (· != ';')))
    if size = 0 then return .empty
    else if bytes.size < next + size then none
    else return bytes.extract next (next + size) ++ (← chunks? bytes bound (next + size + 2))

def body? (bytes : ByteArray) (headers : List Header) (start : Nat) : Option ByteArray :=
  if (value? headers "transfer-encoding").map (·.map Char.toLower) = some "chunked".toList then
    chunks? bytes bytes.size start
  else
    match value? headers "content-length" with
    | none => some (bytes.extract start bytes.size)
    | some ds => do
      let length ← Numeral.natural? 10 ds
      if bytes.size < start + length then none else return bytes.extract start (start + length)

end Wire

/-- The response that bytes are. -/
def Response.ofBytes? (bytes : ByteArray) : Option Response := do
  let (line, next) ← Wire.line? bytes 0
  let status ← Wire.status? line
  let (headers, start) ← Wire.headers? bytes bytes.size next
  let body ← if Status.isBodiless status then some .empty else Wire.body? bytes headers start
  return ⟨status, (Wire.value? headers "retry-after").map String.ofList, body⟩

end LadderAtlas
