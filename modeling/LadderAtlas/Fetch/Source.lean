import LadderAtlas.Fetch.Exchange
import LadderAtlas.Record

/-! # Sources of snapshots

Where the snapshots of a mode and the history of a team come from. The source that the program uses
asks two endpoints below a base address.
-/

namespace LadderAtlas

/-- What a site can be asked for. -/
inductive Endpoint where
  | mode (id : Id)
  | team (id : Int64)
  deriving Repr, DecidableEq

namespace Endpoint

def path : Endpoint → String
  | .mode id => "stats/raw/" ++ Numeral.text id.toInt ++ "/"
  | .team id => "team/" ++ Numeral.text id.toInt ++ "/rankings/"

def url (base : Url) (e : Endpoint) : Except FetchError Url :=
  match base.resolve? e.path with
  | .ok url => .ok url
  | .error problem => .error (.invalidUrl (base.text ++ e.path ++ ": " ++ problem.message))

end Endpoint

/-- Where snapshots and histories come from, both oldest first. -/
structure SnapshotSource (m : Type → Type) where
  name : String
  fetchMode : Id → m (Except FetchError (List (Snapshot Float)))
  fetchHistory : Int64 → m (Except FetchError (List Ranking))

namespace SnapshotSource

variable {m : Type → Type} [Monad m]

/-- Ask for an endpoint, if it has an address. -/
def ask {β : Type} (send : Transport m) (options : FetchOptions) (base : Url) (e : Endpoint)
    (read? : ByteArray → Option β) : m (Except FetchError β) :=
  match e.url base with
  | .ok url => send.fetch options read? url
  | .error problem => pure (.error problem)

def http (send : Transport m) (options : FetchOptions) (base : Url) : SnapshotSource m where
  name := "http"
  fetchMode id := ask send options base (.mode id) Snapshot.parseList?
  fetchHistory id := ask send options base (.team id) Ranking.parseList?

end SnapshotSource

end LadderAtlas
