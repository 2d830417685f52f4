import LadderAtlas.Url.Basic

/-! # Reading addresses

Reading normalizes an address: schemes and domain names become lower case, default ports go, dots in
the path are resolved, and characters are percent encoded where they have to be. `Url.parse?` reads
an address on its own, and `Url.resolve?` one that is relative to another.
-/

namespace LadderAtlas.Url

/-- Take the path off; what is left starts with a question mark or a number sign. -/
def splitPath (cs : List Char) : List Char × List Char :=
  let inPath (c : Char) : Bool := c != '?' && c != '#'
  (cs.takeWhile inPath, cs.dropWhile inPath)

/-- Put an address together with the query and the fragment after its path. -/
def withTail (scheme : List Char) (authority : Option Authority) (path : UrlPath)
    (tail : List Char) : Url :=
  let (query, fragment) := match tail with
    | '?' :: rest => (some (rest.takeWhile (· != '#')), rest.dropWhile (· != '#'))
    | rest => (none, rest)
  { scheme := scheme
    authority := authority
    path := path
    query := query.map (Percent.encode (Percent.inQuery (isSpecial scheme)))
    fragment := match fragment with
      | '#' :: rest => some (Percent.encode Percent.inFragment rest)
      | _ => none }

def dropSlash (special : Bool) : List Char → List Char
  | c :: rest => if isSlash special c then rest else c :: rest
  | [] => []

/-- Cut an authority at its last at sign, if it has one. -/
def splitUser (cs : List Char) : Option (List Char × List Char) :=
  if cs.contains '@' then
    let host := (cs.reverse.takeWhile (· != '@')).reverse
    some (cs.take (cs.length - host.length - 1), host)
  else none

/-- Cut a host from its port at the first colon outside brackets; the port with its colon. -/
def splitPort : (inBrackets : Bool) → List Char → List Char × List Char
  | _, [] => ([], [])
  | inBrackets, c :: rest =>
    if c == ':' && !inBrackets then ([], c :: rest)
    else
      let (host, port) :=
        splitPort (if c == '[' then true else if c == ']' then false else inBrackets) rest
      (c :: host, port)

/-- Read a port of digits only, its colon in front. -/
def port? (scheme : List Char) (cs : List Char) : Except UrlError (Option Nat) :=
  match cs with
  | ':' :: ds =>
    if ds.isEmpty then .ok none
    else
      match Numeral.natural? 10 ds with
      | some n =>
        if 65535 < n then .error .badPort
        else .ok (if defaultPort? scheme = some n then none else some n)
      | none => .error .badPort
  | _ => .ok none

/-- Read the host of an authority; an empty one is none. -/
def authorityHost? (scheme : List Char) (cs port : List Char) : Except UrlError (Option Host) :=
  if isSpecial scheme then (Host.ofSpecial? cs).map some
  else if cs.isEmpty then (if port.isEmpty then .ok none else .error .emptyHost)
  else (Host.ofGeneral? cs).map some

/-- Read an authority. A backslash ends a port under every scheme; what follows is left. -/
def authority? (scheme : List Char) (cs : List Char) (more : Bool) :
    Except UrlError (Authority × List Char) := do
  let (user, hostPort) ← match splitUser cs with
    | none => .ok ([], cs)
    | some ([], hostPort) =>
      if hostPort.isEmpty && more then .error .emptyHost else .ok ([], hostPort)
    | some (user, hostPort) => .ok (user, hostPort)
  let (host, port) := splitPort false hostPort
  let host ← authorityHost? scheme host port
  let left := port.dropWhile (· != '\\')
  let port ← port? scheme (port.takeWhile (· != '\\'))
  let a : Authority :=
    { user := Percent.encode Percent.inUser (user.takeWhile (· != ':'))
      password := Percent.encode Percent.inUser ((user.dropWhile (· != ':')).drop 1)
      host := host
      port := port }
  if host.isNone && !(a.user.isEmpty && a.password.isEmpty) then .error .emptyHost
  else return (a, left)

/-- Read what follows the two slashes of a scheme other than that of files. -/
def ofAuthority? (scheme cs : List Char) : Except UrlError Url := do
  let special := isSpecial scheme
  let inAuthority (c : Char) : Bool := !(isSlash special c || c == '?' || c == '#')
  let rest := cs.dropWhile inAuthority
  let (a, left) ← authority? scheme (cs.takeWhile inAuthority) (!rest.isEmpty)
  let (path, tail) := splitPath (left ++ rest)
  let segments :=
    if path.isEmpty && !special then [] else generalPath special (dropSlash special path)
  return withTail scheme (some a) (.rooted segments) tail

/-- Put the address of a file together from its host and from what follows the slash in front of its
    path. A drive has no host. -/
def ofFilePath (host : Option Host) (cs : List Char) : Url :=
  let (path, tail) := splitPath cs
  let path := PathSoFar.append true ⟨[], false⟩ (segments true path)
  let host := if path.onDrive then none else host
  withTail fileScheme (some ⟨[], [], host, none⟩) (.rooted (trimmed true path.segments))
    (tail.filter counts)

/-- Read the host of a file; the local one goes without saying. -/
def fileHost? (cs : List Char) : Except UrlError (Option Host) :=
  if cs.isEmpty then .ok none
  else do
    let host ← Host.ofSpecial? cs
    return if host = .domain "localhost".toList then none else some host

/-- Take one slash off, and characters before it that do not count. -/
def slash? (cs : List Char) : Option (List Char) :=
  match cs.dropWhile (!counts ·) with
  | c :: rest => if isSlash true c then some rest else none
  | [] => none

/-- Read what follows the scheme of files, characters that do not count included. Where no host is
    named, the slash after its place is part of the path, so that a drive behind it is no drive. -/
def ofFile? (cs : List Char) : Except UrlError Url :=
  match slash? cs with
  | none => .ok (ofFilePath none cs)
  | some path =>
    match slash? path with
    | none => .ok (ofFilePath none path)
    | some rest =>
      let inHost (c : Char) : Bool := !(isSlash true c || c == '?' || c == '#')
      let name := (rest.takeWhile inHost).filter counts
      let path := rest.dropWhile inHost
      if isDrive name then .ok (ofFilePath none rest)
      else do
        match ← fileHost? name with
        | some host => return ofFilePath (some host) (dropSlash true path)
        | none => return ofFilePath none path

def withoutMargin (text : String) : List Char :=
  let isOuter (c : Char) : Bool := c.toNat ≤ 0x20
  ((text.toList.dropWhile isOuter).reverse.dropWhile isOuter).reverse

def parse? (text : String) : Except UrlError Url :=
  let cs := withoutMargin text
  match scheme? (cs.filter counts) with
  | none => .error .relativeWithoutBase
  | some (scheme, rest) =>
    if scheme == fileScheme then ofFile? ((cs.dropWhile (· != ':')).drop 1)
    else if isSpecial scheme then ofAuthority? scheme (rest.dropWhile (isSlash true))
    else
      match rest with
      | '/' :: '/' :: rest => ofAuthority? scheme rest
      | '/' :: rest =>
        let (path, tail) := splitPath rest
        .ok (withTail scheme none (.rooted (generalPath false path)) tail)
      | rest =>
        let (path, tail) := splitPath rest
        .ok (withTail scheme none (.rootless (Percent.encode Percent.isControl path)) tail)

/-- The address of a relative path: it replaces the last segment of the base, and query and fragment
    are dropped. -/
def resolve? (base : Url) (relative : String) : Except UrlError Url :=
  match base.path with
  | .rootless _ => .error .baseWithoutHierarchy
  | .rooted path =>
    let file := base.scheme == fileScheme
    let full := resolved file path (segments (isSpecial base.scheme) relative.toList)
    .ok { base with
      path := .rooted (trimmed file full)
      query := none
      fragment := none }

end LadderAtlas.Url
