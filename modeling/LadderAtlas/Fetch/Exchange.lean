import LadderAtlas.Fetch.Error
import LadderAtlas.Fetch.Status
import LadderAtlas.Text.Blank
import LadderAtlas.Url.Reading

/-! # Requests and responses

What is asked of a server, and what its response is worth. A response is judged in a fixed order:
being asked to wait, any other status that is no success, the size of the body, and then what the
body holds.
-/

namespace LadderAtlas

/-- How requests are made and how much of a response is accepted. -/
structure FetchOptions where
  /-- The seconds after which a request is given up. -/
  timeout : Nat
  /-- Who the server is told that is asking. -/
  userAgent : String
  maxSize : Nat
  deriving Repr, DecidableEq

namespace FetchOptions

/-- Half a minute, fifty mebibytes, and the name of the program. -/
def standard : FetchOptions := ⟨30, "ladder-stats/0.1.0", 50 * 1024 * 1024⟩

def isHeaderChar (c : Char) : Bool := c == '\t' || (32 ≤ c.toNat && c.toNat != 127)

/-- Drop what does not belong to the value of a header. -/
def trimHeader (value : String) : List Char :=
  Text.trimWhere (fun c => c == ' ' || c == '\t') value.toList

/-- The header that says who is asking. What no header can hold gives way to the bare name. -/
def userAgentHeader (o : FetchOptions) : String :=
  if o.userAgent.toList.all isHeaderChar then String.ofList (trimHeader o.userAgent)
  else "ladder-stats"

end FetchOptions

structure Request where
  url : Url
  userAgent : String
  /-- The seconds after which it is given up. -/
  timeout : Nat
  deriving Repr, DecidableEq

namespace Request

def get (options : FetchOptions) (url : Url) : Request :=
  ⟨url, options.userAgentHeader, options.timeout⟩

def line (r : Request) : String := "GET " ++ r.url.target ++ " HTTP/1.1"

def host (r : Request) : String := r.url.host?.getD "unknown"

end Request

structure Response where
  status : Nat
  /-- How long the server asks to wait, as it says so. -/
  retryAfter : Option String
  body : ByteArray

namespace Response

/-- How many seconds to wait where the server does not say. -/
def standardWait : Nat := 60

/-- The seconds that a header asks to wait, if it gives a number of them. -/
def seconds? (header : String) : Option Nat :=
  (Numeral.unsigned? (FetchOptions.trimHeader header)).filter (· < UInt64.size)

def wait (r : Response) : Nat := ((r.retryAfter.bind seconds?).getD standardWait)

/-- The body that counts. -/
def content (r : Response) : ByteArray := if Status.isBodiless r.status then .empty else r.body

/-- What a response to a request is worth, given how its body is read. -/
def decode {β : Type} (options : FetchOptions) (request : Request) (read? : ByteArray → Option β)
    (r : Response) : Except FetchError β :=
  if r.status = Status.tooManyRequests then .error (.rateLimited request.host r.wait)
  else if !Status.isSuccess r.status then .error (.status r.status (Status.reason r.status))
  else if options.maxSize < r.content.size then
    .error (.tooLarge r.content.size options.maxSize)
  else
    match read? r.content with
    | some value => .ok value
    | none => .error .notJson

end Response

/-- Sends a request; what comes back is a response, or a description of why there is none. -/
abbrev Transport (m : Type → Type) := Request → m (Except String Response)

/-- Ask for an address and read the body of the response. -/
def Transport.fetch {m : Type → Type} [Monad m] {β : Type} (send : Transport m)
    (options : FetchOptions) (read? : ByteArray → Option β) (url : Url) :
    m (Except FetchError β) := do
  let request := Request.get options url
  match ← send request with
  | .ok response => return response.decode options request read?
  | .error description => return .error (.noAnswer description)

end LadderAtlas
