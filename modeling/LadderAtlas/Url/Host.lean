import LadderAtlas.Url.Domain.Basic
import LadderAtlas.Url.Error
import LadderAtlas.Url.Percent

/-! # Hosts

A host is a domain name, an address of four numbers or one of eight. Under the special schemes a
host whose last part is a number has to be an address of four; under general schemes a host is any
text without certain characters.
-/

namespace LadderAtlas

inductive Host where
  | domain (name : List Char)
  /-- A number below `2 ^ 32`. -/
  | ipv4 (address : Nat)
  /-- Eight numbers below `2 ^ 16`. -/
  | ipv6 (pieces : List Nat)
  deriving Repr, DecidableEq

namespace Host

/-! ## Addresses of four numbers -/

/-- The number that a part is, in base 16 after `0x`, in base 8 after another zero, and else in base
    10; none inside where the number does not fit. -/
def number? (part : List Char) : Option Nat :=
  match part with
  | [] => none
  | ['0'] => some 0
  | '0' :: x :: ds =>
    if x == 'x' || x == 'X' then (if ds.isEmpty then some 0 else Numeral.natural? 16 ds)
    else Numeral.natural? 8 (x :: ds)
  | ds => Numeral.natural? 10 ds

def parts (name : List Char) : List (List Char) :=
  let all := Text.separated '.' name
  if all.getLast? == some [] && 1 < all.length then all.dropLast else all

def endsInNumber (name : List Char) : Bool :=
  match (parts name).getLast? with
  | some last => (!last.isEmpty && last.all (·.isDigit)) || (number? last).isSome
  | none => false

/-- Put the numbers of an address together. The last one fills all bytes that are left. -/
def combine? : (left : Nat) → List Nat → Option Nat
  | _, [] => none
  | left, [n] => if n < 1 <<< (8 * left) then some n else none
  | left, n :: rest =>
    if n < 256 then (combine? (left - 1) rest).map (n <<< (8 * (left - 1)) + ·) else none

/-- The address of four numbers that a name is. -/
def ipv4? (name : List Char) : Except UrlError Nat :=
  let ps := parts name
  match if ps.length ≤ 4 then ps.mapM number? >>= combine? 4 else none with
  | some n => .ok n
  | none => .error .badIpv4

/-! ## Addresses of eight numbers -/

def piece? (part : List Char) : Option Nat :=
  if part.length ≤ 4 then Numeral.natural? 16 part else none

/-- A number below 256 without leading zeros. -/
def byte? (part : List Char) : Option Nat := do
  let n ← Numeral.natural? 10 part
  if n < 256 && (part.length = 1 || part.head? != some '0') then some n else none

/-- The pieces between colons; the last one may be four bytes with dots. -/
def pieces? (allowBytes : Bool) : List (List Char) → Option (List Nat)
  | [] => some []
  | [last] =>
    match if allowBytes && last.contains '.' then (Text.separated '.' last).mapM byte?
      else none with
    | some [a, b, c, d] => some [a * 256 + b, c * 256 + d]
    | _ => (piece? last).map fun n => [n]
  | part :: rest => do return (← piece? part) :: (← pieces? allowBytes rest)

def side? (allowBytes : Bool) (cs : List Char) : Option (List Nat) :=
  if cs.isEmpty then some [] else pieces? allowBytes (Text.separated ':' cs)

def atDoubleColon : List Char → Option (List Char × List Char)
  | ':' :: ':' :: rest => some ([], rest)
  | c :: rest => (atDoubleColon rest).map fun (left, right) => (c :: left, right)
  | [] => none

/-- The address of eight numbers that a text is. A double colon stands for as many zeros as are
    missing, one at least. -/
def ipv6? (cs : List Char) : Option (List Nat) :=
  match atDoubleColon cs with
  | some (left, right) => do
    let left ← side? false left
    let right ← side? true right
    let missing := 8 - (left.length + right.length)
    if left.length + right.length < 8 then return left ++ List.replicate missing 0 ++ right
    else none
  | none => (side? true cs).filter (·.length = 8)

def zeros (ps : List Nat) : Nat := (ps.takeWhile (· = 0)).length

/-- The first longest run of zeros: where it starts, and how long it is. -/
def longestZeros (ps : List Nat) : Nat × Nat :=
  (List.range ps.length).foldl (fun best k =>
    let run := zeros (ps.drop k)
    if best.2 < run then (k, run) else best) (0, 0)

def joined (ps : List Nat) : List Char :=
  (List.intersperse [':'] (ps.map (Nat.toDigits 16))).flatten

/-- The text of eight numbers; the first longest run of two zeros or more is a double colon. -/
def ipv6Text (ps : List Nat) : List Char :=
  let (start, run) := longestZeros ps
  if 2 ≤ run then joined (ps.take start) ++ ':' :: ':' :: joined (ps.drop (start + run))
  else joined ps

def ipv4Text (n : Nat) : List Char :=
  (List.intersperse ['.'] ([3, 2, 1, 0].map fun k => Decimal.digits (n >>> (8 * k) % 256))).flatten

/-! ## Reading and writing -/

def bracketed? (cs : List Char) : Except UrlError Host :=
  match cs.getLast?, ipv6? cs.dropLast with
  | some ']', some pieces => .ok (.ipv6 pieces)
  | _, _ => .error .badIpv6

def ofSpecial? (cs : List Char) : Except UrlError Host :=
  match cs with
  | '[' :: rest => bracketed? rest
  | cs =>
    match Percent.decode? cs >>= Domain.ascii? with
    | none => .error .badDomain
    | some [] => .error .emptyHost
    | some name =>
      if endsInNumber name then (ipv4? name).map .ipv4 else .ok (.domain name)

def isForbiddenGeneral (c : Char) : Bool :=
  c.toNat == 0 ||
    ['\t', '\n', '\r', ' ', '#', '/', ':', '<', '>', '?', '@', '[', '\\', ']', '^', '|'].contains c

def ofGeneral? (cs : List Char) : Except UrlError Host :=
  match cs with
  | '[' :: rest => bracketed? rest
  | cs =>
    if cs.any isForbiddenGeneral then .error .badHostCharacter
    else .ok (.domain (Percent.encode Percent.isControl cs))

def chars : Host → List Char
  | .domain name => name
  | .ipv4 n => ipv4Text n
  | .ipv6 pieces => '[' :: (ipv6Text pieces ++ [']'])

def text (h : Host) : String := String.ofList h.chars

end Host

end LadderAtlas
