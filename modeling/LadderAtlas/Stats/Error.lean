import LadderAtlas.Dimension
import LadderAtlas.Number.Numeral

/-! # What can go wrong with statistics -/

namespace LadderAtlas

/-- Why a snapshot was refused or an aggregate could not be read. -/
inductive StatsError where
  | unknownStatVersion (version : UInt32)
  | dataLength (snapshot : Int64) (expected actual : Nat)
  | unknownId (dimension : Dimension) (id : Id)
  | pathTooLong (length depth : Nat)
  | emptyCollection
  /-- A cell was asked for that has no place in the array: an id without a slot, or a slot beyond
      the array. Whoever reads cells promises that this does not happen. -/
  | unplacedCell
  /-- The length that a layout asks for does not fit in a word. Whoever makes layouts promises that
      this does not happen. -/
  | overflow
  deriving Repr, DecidableEq

namespace StatsError

def message : StatsError → String
  | .unknownStatVersion version => "No layout for stat version " ++ Numeral.text version.toNat
  | .dataLength snapshot expected actual =>
    "Snapshot " ++ Numeral.text snapshot.toInt ++ " has " ++ Numeral.text actual
      ++ " numbers, layout expects " ++ Numeral.text expected
  | .unknownId dimension id =>
    "Id " ++ Numeral.text id.toInt ++ " is not in the " ++ dimension.singular ++ " filter"
  | .pathTooLong length depth =>
    "Path of length " ++ Numeral.text length ++ " is deeper than group by of length "
      ++ Numeral.text depth
  | .emptyCollection => "No snapshots available"
  | .unplacedCell => "Cell without a place in the snapshot"
  | .overflow => "Layout of too many numbers"

/-- Whether it is no answer but the end of the program: a promise was broken. -/
def isPanic : StatsError → Bool
  | .unplacedCell | .overflow => true
  | _ => false

end StatsError

end LadderAtlas
