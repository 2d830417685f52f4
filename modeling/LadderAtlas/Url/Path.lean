import LadderAtlas.Text.Separated
import LadderAtlas.Url.Percent

/-! # Paths of addresses

A path is a sequence of segments, each behind a slash. Segments of dots are resolved as a path is
read: one dot stands for the directory that the path is in, and two dots for the one above. The
letter of a drive is never left upwards, and it is recognized where the path of a file starts.
-/

namespace LadderAtlas

inductive UrlPath where
  /-- A text that no other address can be resolved against. -/
  | rootless (text : List Char)
  | rooted (segments : List (List Char))
  deriving Repr, DecidableEq

namespace Url

def pathChars : UrlPath → List Char
  | .rootless text => text
  | .rooted segments => segments.flatMap ('/' :: ·)

/-! ## Segments -/

/-- Whether a character separates segments. -/
def isSlash (special : Bool) (c : Char) : Bool := c == '/' || (special && c == '\\')

/-- Whether a character counts. Tabs and line ends do not, wherever they stand. -/
def counts (c : Char) : Bool := !(c == '\t' || c == '\n' || c == '\r')

def isDot (segment : List Char) : Bool :=
  match segment.map Char.toLower with
  | ['.'] => true
  | ['%', '2', 'e'] => true
  | _ => false

def isDoubleDot (segment : List Char) : Bool :=
  match segment.map Char.toLower with
  | ['.', '.'] => true
  | ['.', '%', '2', 'e'] => true
  | ['%', '2', 'e', '.'] => true
  | ['%', '2', 'e', '%', '2', 'e'] => true
  | _ => false

/-- Whether a segment is the letter of a drive. -/
def isDrive : List Char → Bool
  | [letter, mark] => letter.isAlpha && (mark == ':' || mark == '|')
  | _ => false

def isPlainDrive (segment : List Char) : Bool := isDrive segment && segment.getLast? == some ':'

/-- Go up by one segment. The letter of a drive stays, wherever it stands. -/
def shorten (segments : List (List Char)) : List (List Char) :=
  match segments.getLast? with
  | some last => if isDrive (last.takeWhile (· != '\\')) then segments else segments.dropLast
  | none => []

/-- The letter of a drive, with a colon and at least one character that does not count behind it,
    and the rest of the segment, which is a segment of its own. -/
def driveAside? (segment : List Char) : Option (List Char × List Char) :=
  let skip (cs : List Char) : List Char := cs.dropWhile (!counts ·)
  match skip segment with
  | letter :: rest =>
    match skip rest with
    | ':' :: c :: rest =>
      if letter.isAlpha && !counts c && rest.any counts then
        some ([letter, ':'], rest.filter counts)
      else none
    | _ => none
  | [] => none

/-! ## Reading segments -/

/-- A path that is being read. -/
structure PathSoFar where
  segments : List (List Char)
  /-- Whether it starts with the letter of a drive, which was a segment of its own. -/
  onDrive : Bool

/-- Append a segment. A drive is recognized only at the start of the path of a file. -/
def PathSoFar.push (file : Bool) (path : PathSoFar) (segment : List Char) : PathSoFar :=
  let text := segment.filter counts
  if file && path.segments.isEmpty then
    match driveAside? segment with
    | some (drive, rest) => { path with segments := [drive, Percent.encode Percent.inPath rest] }
    | none =>
      if isDrive text then ⟨[text.take 1 ++ [':']], true⟩
      else { path with segments := [Percent.encode Percent.inPath text] }
  else { path with segments := path.segments ++ [Percent.encode Percent.inPath text] }

/-- Append segments, resolving dots. Dots at the end leave an empty segment. -/
def PathSoFar.append (file : Bool) (path : PathSoFar) : List (List Char) → PathSoFar
  | [] => path
  | segment :: rest =>
    let text := segment.filter counts
    let last : List (List Char) := if rest.isEmpty then [[]] else []
    if isDoubleDot text then
      append file { path with segments := shorten path.segments ++ last } rest
    else if isDot text then append file { path with segments := path.segments ++ last } rest
    else append file (path.push file segment) rest

def segments (special : Bool) (cs : List Char) : List (List Char) :=
  Text.separated '/' (cs.map fun c => if isSlash special c then '/' else c)

/-- A path as it is kept: that of a file does not start with empty segments. -/
def trimmed (file : Bool) (segments : List (List Char)) : List (List Char) :=
  if file then
    match segments.dropWhile List.isEmpty with
    | [] => [[]]
    | rest => rest
  else segments

/-- The segments that a text is under a scheme other than that of files. -/
def generalPath (special : Bool) (cs : List Char) : List (List Char) :=
  (PathSoFar.append false ⟨[], false⟩ (segments special cs)).segments

/-! ## Relative paths -/

/-- The path of a base with relative segments in place of its last one. The letter of a drive at the
    end of a file's path stays: alone it is a segment of its own, and else the first relative
    segment continues it. -/
def resolved (file : Bool) (base relative : List (List Char)) : List (List Char) :=
  let onto (start relative : List (List Char)) : List (List Char) :=
    (PathSoFar.append file ⟨start, false⟩ relative).segments
  match base.getLast?, relative with
  | some last, first :: rest =>
    if file && isPlainDrive last then
      if base.length = 1 then onto base relative
      else onto (base.dropLast ++ [last ++ Percent.encode Percent.inPath first]) rest
    else onto base.dropLast relative
  | _, relative => onto base.dropLast relative

end Url

end LadderAtlas
