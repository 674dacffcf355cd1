/-
Module: BoxProbe.Text.Pieces
Purpose: A text in pieces.
Main exports: pieces
-/

/-!
Separators cut a text into pieces, one more than there are separators; pieces may be empty.
-/

namespace BoxProbe

/-- The pieces of a text between its separators. -/
def pieces (isSeparator : Char → Bool) : List Char → List (List Char)
  | [] => [[]]
  | c :: rest =>
    if isSeparator c then [] :: pieces isSeparator rest
    else
      match pieces isSeparator rest with
      | [] => [[c]]
      | piece :: more => (c :: piece) :: more

end BoxProbe
