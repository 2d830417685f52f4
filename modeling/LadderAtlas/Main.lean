import LadderAtlas.Command.Run
import LadderAtlas.Fetch.Wire
import Std.Async.DNS
import Std.Async.TCP
import Std.Async.Timer

/-! # The command

Puts the command into the world of files, streams and connections. A response that the whole command
waits for is received as a whole; only servers that are spoken to in plain text can be asked.
-/

namespace LadderAtlas.Main

open Std.Async Std.Net

/-- Receive until the connection is closed. -/
partial def receive (client : TCP.Socket.Client) (received : ByteArray) : Async ByteArray := do
  match ← client.recv? 65536 with
  | some bytes => receive client (received ++ bytes)
  | none => return received

def socketAddress (port : UInt16) : IPAddr → SocketAddress
  | .v4 address => .v4 ⟨address, port⟩
  | .v6 address => .v6 ⟨address, port⟩

/-- Send a request to a port of its server and receive the response. -/
def exchange (r : Request) (port : Nat) : Async (Except String Response) := do
  let host := (r.host.toList.dropWhile (· == '[')).takeWhile (· != ']')
  let addresses ← DNS.getAddrInfo (String.ofList host) ""
  match addresses[0]? with
  | none => return .error ("unknown host " ++ r.host)
  | some address =>
    let client ← TCP.Socket.Client.mk
    client.connect (socketAddress port.toUInt16 address)
    client.send r.bytes
    match Response.ofBytes? (← receive client .empty) with
    | some response => return .ok response
    | none => return .error "incomplete response"

/-- Wait until a request is given up. -/
def giveUp (r : Request) : Async (Except String Response) := do
  sleep (.ofInt (1000 * r.timeout))
  return .error "operation timed out"

def send (r : Request) : IO (Except String Response) := do
  let port := (r.url.authority.bind Authority.port).getD 80
  if r.url.scheme = "http".toList then
    try (Async.race (exchange r port) (giveUp r)).block
    catch problem => return .error (toString problem)
  else return .error ("no plain connection for " ++ r.url.text)

def isThere (path : String) : IO Bool := do
  try
    let _ ← IO.FS.Handle.mk path .read
    return true
  catch
    | .noFileOrDirectory .. => return false
    | .inappropriateType .. => return false
    | _ => return true

/-- The world as the command sees it. -/
def shell : Command.Shell IO where
  isThere := isThere
  readText? path := do try return some (← IO.FS.readFile path) catch _ => return none
  writeText path text := do
    try
      IO.FS.writeFile path text
      return true
    catch _ => return false
  print := IO.print
  complain := IO.eprint
  send := send

end LadderAtlas.Main

def main (words : List String) : IO UInt32 :=
  LadderAtlas.Command.execute LadderAtlas.Main.shell words
