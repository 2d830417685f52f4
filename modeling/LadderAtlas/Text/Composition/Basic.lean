import LadderAtlas.Text.Composition.Class
import LadderAtlas.Text.Composition.Pair

/-! # Composition

One text may be written in several ways: a letter and its accents apart or in one, and the accents
in any order where they do not touch each other. `compose` gives the one way in which as much as
possible is in one. Characters that are not made of two and yet mean the same as another are left as
they are.
-/

namespace LadderAtlas.Text

/-- A character that nothing is moved across, and the marks after it. -/
structure Cluster where
  starter : Nat
  marks : List Nat
  deriving Repr, DecidableEq

namespace Cluster

def codes (c : Cluster) : List Nat := c.starter :: c.marks

/-- Put marks into the starter where they make one character with it. A mark cannot get past one of
    its own class that is left. -/
def absorb (c : Cluster) : List Nat → Cluster
  | [] => c
  | m :: rest =>
    let isFree := match c.marks.getLast? with
      | some left => decide (combiningClass left < combiningClass m)
      | none => true
    match if isFree then join? c.starter m else none with
    | some starter => absorb { c with starter := starter } rest
    | none => absorb { c with marks := c.marks ++ [m] } rest

/-- Compose clusters from left to right, the first of which is composed already. Two starters with
    nothing between them may make one. -/
def composeFrom (c : Cluster) : List Cluster → List Nat
  | [] => c.codes
  | next :: rest =>
    match if c.marks.isEmpty then join? c.starter next.starter else none with
    | some starter => composeFrom (absorb ⟨starter, []⟩ next.marks) rest
    | none => c.codes ++ composeFrom (absorb ⟨next.starter, []⟩ next.marks) rest

end Cluster

/-- How often a character may be split: its first half is split in turn, its second half never. -/
def splitLimit : Nat := 4

/-- The codes that a code is made of, in the end. -/
def decompose : (bound : Nat) → Nat → List Nat
  | 0, code => [code]
  | bound + 1, code =>
    match split? code with
    | some (first, second) => decompose bound first ++ [second]
    | none => [code]

def ordered (marks : List Nat) : List Nat :=
  marks.mergeSort fun a b => decide (combiningClass a ≤ combiningClass b)

/-- The marks at the head of a text, and its clusters. -/
def clusters (codes : List Nat) : List Nat × List Cluster :=
  codes.foldr (fun code (marks, clusters) =>
    if combiningClass code = 0 then ([], ⟨code, ordered marks⟩ :: clusters)
    else (code :: marks, clusters)) ([], [])

/-- The text in its composed form. -/
def compose (cs : List Char) : List Char :=
  let (marks, clusters) := clusters (cs.flatMap fun c => decompose splitLimit c.toNat)
  let composed := match clusters with
    | [] => []
    | first :: rest => Cluster.composeFrom (Cluster.absorb ⟨first.starter, []⟩ first.marks) rest
  (ordered marks ++ composed).map Char.ofNat

end LadderAtlas.Text
