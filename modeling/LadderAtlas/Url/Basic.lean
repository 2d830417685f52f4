import LadderAtlas.Url.Host
import LadderAtlas.Url.Path

/-! # Addresses

An address is a scheme, an authority under most schemes, a path, and a query and a fragment where
given.
-/

namespace LadderAtlas

/-- Who is to be asked, and on behalf of whom. -/
structure Authority where
  user : List Char
  password : List Char
  /-- Missing where the host is empty, as in the address of a local file. -/
  host : Option Host
  port : Option Nat
  deriving Repr, DecidableEq

/-- A normalized address. -/
structure Url where
  scheme : List Char
  authority : Option Authority
  path : UrlPath
  query : Option (List Char)
  fragment : Option (List Char)
  deriving Repr, DecidableEq

namespace Url

/-! ## Writing -/

def authorityChars (a : Authority) : List Char :=
  let password := if a.password.isEmpty then [] else ':' :: a.password
  let user := if a.user.isEmpty && a.password.isEmpty then [] else a.user ++ password ++ ['@']
  let host := match a.host with
    | some h => h.chars
    | none => []
  let port := match a.port with
    | some n => ':' :: Decimal.digits n
    | none => []
  user ++ host ++ port

def targetChars (u : Url) : List Char :=
  pathChars u.path ++ match u.query with
    | some q => '?' :: q
    | none => []

def target (u : Url) : String := String.ofList u.targetChars

/-- The characters of an address. Without an authority, a path must not look as if it began with
    one. -/
def chars (u : Url) : List Char :=
  let authority := match u.authority, u.path with
    | some a, _ => '/' :: '/' :: authorityChars a
    | none, .rooted ([] :: _ :: _) => ['/', '.']
    | none, _ => []
  let fragment := match u.fragment with
    | some f => '#' :: f
    | none => []
  u.scheme ++ ':' :: (authority ++ u.targetChars ++ fragment)

def text (u : Url) : String := String.ofList u.chars

def host? (u : Url) : Option String := do return (← (← u.authority).host).text

/-! ## Schemes -/

def fileScheme : List Char := ['f', 'i', 'l', 'e']

def defaultPorts : List (List Char × Nat) :=
  [("http".toList, 80), ("https".toList, 443), ("ws".toList, 80), ("wss".toList, 443),
    ("ftp".toList, 21)]

def defaultPort? (scheme : List Char) : Option Nat := defaultPorts.lookup scheme

/-- Whether an authority is asked for under a scheme, so that a backslash is as good as a slash. -/
def isSpecial (scheme : List Char) : Bool := scheme == fileScheme || (defaultPort? scheme).isSome

def isSchemeChar (c : Char) : Bool := c.isAlphanum || c == '+' || c == '-' || c == '.'

/-- The scheme at the head, in lower case, and what follows its colon. -/
def scheme? (cs : List Char) : Option (List Char × List Char) :=
  match cs.takeWhile isSchemeChar, cs.dropWhile isSchemeChar with
  | c :: name, ':' :: rest => if c.isAlpha then some ((c :: name).map Char.toLower, rest) else none
  | _, _ => none

end Url

end LadderAtlas
