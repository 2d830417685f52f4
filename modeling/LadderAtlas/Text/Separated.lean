/-! # Separated texts -/

namespace LadderAtlas.Text

/-- The parts of a text between separators, one more than there are separators. -/
def separated (separator : Char) (cs : List Char) : List (List Char) :=
  cs.foldr (fun c parts => match parts with
    | [] => if c == separator then [[], []] else [[c]]
    | part :: rest => if c == separator then [] :: part :: rest else (c :: part) :: rest) [[]]

end LadderAtlas.Text
