/-! # Machine words

Sizes and places are words of 64 bits, times are such words with a sign. What becomes of a result
that does not fit is a matter of the build: one that checks its arithmetic stops there, a release
goes on with the bits that are left.
-/

namespace LadderAtlas

/-- What becomes of a result that does not fit in its word. -/
inductive Overflow where
  /-- The program ends with a panic. -/
  | stops
  | wraps
  deriving Repr, DecidableEq

/-- How the program is built. -/
class Build where
  overflow : Overflow

/-- The build that runs checks its arithmetic. -/
instance : Build := ⟨.stops⟩

namespace Word

/-- The number of words. -/
def limit : Nat := UInt64.size

/-- The word that a result is; `none` where the program stops. -/
def fit? [Build] (n : Nat) : Option Nat :=
  if n < limit then some n
  else
    match Build.overflow with
    | .stops => none
    | .wraps => some (n % limit)

/-- Terms added from the left. -/
def sum? [Build] (first : Nat) (rest : List Nat) : Option Nat :=
  rest.foldlM (fun sum term => fit? (sum + term)) first

/-- Factors multiplied from the left. -/
def product? [Build] (first : Nat) (rest : List Nat) : Option Nat :=
  rest.foldlM (fun product factor => fit? (product * factor)) first

/-- The difference of two words with a sign. -/
def minus? [Build] (a b : Int64) : Option Int64 :=
  match Build.overflow with
  | .stops => if (a - b).toInt = a.toInt - b.toInt then some (a - b) else none
  | .wraps => some (a - b)

end Word

end LadderAtlas
