import LadderAtlas.Command.Run

/-! # A world for the command, held in memory

A directory with files and a server whose responses are fixed. A command that runs in such a world
is a pure function of the world and its words: it leaves files, printed text, complaints and the
requests it made.
-/

namespace LadderAtlas.Command

/-- The names on the way from the working directory to a file. -/
abbrev Names := List String

/-- A directory with files, a server, and what the command did so far. -/
structure World where
  files : Keyed Names String
  responses : Keyed String Response
  /-- The first lines of the requests, oldest first. -/
  requests : List String
  printed : String
  complaints : String

namespace World

def ofFiles (files : Keyed Names String) (responses : Keyed String Response) : World :=
  ⟨files, responses, [], "", ""⟩

/-- Where a path leads from the working directory. -/
def names (path : String) : Names :=
  (path.splitOn "/").foldl (fun names part =>
    if part = "" ∨ part = "." then names
    else if part = ".." then names.dropLast
    else names ++ [part]) []

/-- Whether there is a directory; one is there as long as there is something in it. -/
def isDirectory (w : World) (names : Names) : Bool :=
  names.isEmpty || w.files.keys.any fun file => names.isPrefixOf file && names != file

/-- Walk along the parts of a path from a directory on. Every part is looked for in a directory, and
    no way leads out of the working directory. -/
def walk (w : World) : Names → List String → Option Names
  | names, [] => some names
  | names, part :: rest =>
    if !w.isDirectory names then none
    else if part = "" ∨ part = "." then walk w names rest
    else if part = ".." then (if names.isEmpty then none else walk w names.dropLast rest)
    else walk w (names ++ [part]) rest

/-- Where a path leads, if the way is there up to its last part. -/
def resolve? (w : World) (path : String) : Option Names :=
  if path.isEmpty || path.toList.head? == some '/' then none else w.walk [] (path.splitOn "/")

/-- The file that takes every text and has none. -/
def nullPath : String := "/dev/null"

def file? (w : World) (path : String) : Option String :=
  if path = nullPath then some "" else w.resolve? path >>= w.files.get?

def isThere (w : World) (path : String) : Bool :=
  (w.file? path).isSome || (w.resolve? path).any w.isDirectory

def write? (w : World) (path text : String) : Option World :=
  if path = nullPath then some w
  else
    match w.resolve? path with
    | some names =>
      if w.isDirectory names then none else some { w with files := w.files.insert names text }
    | none => none

def respond (w : World) (r : Request) : Response :=
  (w.responses.get? r.url.target).getD ⟨404, none, .empty⟩

def shell : Shell (StateM World) where
  isThere path w := (w.isThere path, w)
  readText? path w := (w.file? path, w)
  writeText path text w :=
    match w.write? path text with
    | some w => (true, w)
    | none => (false, w)
  print text w := ((), { w with printed := w.printed ++ text })
  complain text w := ((), { w with complaints := w.complaints ++ text })
  send request w := (.ok (w.respond request), { w with requests := w.requests ++ [request.line] })

/-- Run the command in a world; its exit code and what becomes of the world. -/
def run (w : World) (words : List String) : UInt32 × World := (execute shell words).run w

end World

end LadderAtlas.Command
