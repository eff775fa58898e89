import Diagnostics.Text.Basic

/-!
# Replacing a name inside a word

A program that writes its own file is told where to by replacing the file's name in its
arguments. The rule is stated through the pieces of the word *between* the places where the name
occurs: occurrences are found from the left and do not overlap, and the replaced word is the same
pieces joined by something else. So a replacement that contains the name itself is never looked
at again.
-/

set_option autoImplicit false

namespace Diagnostics.Text

/-- The pieces of a text around a name that is not empty. The counter says how many code points
still belong to the occurrence found last. -/
def piecesFrom (name : Text) : Nat → Text → List Text
  | _, [] => [[]]
  | skip + 1, _ :: cs => piecesFrom name skip cs
  | 0, c :: cs =>
    if name.isPrefixOf (c :: cs) then [] :: piecesFrom name (name.length - 1) cs
    else consPiece c (piecesFrom name 0 cs)

/-- The pieces of a text around the leftmost occurrences of a name. The empty name occurs before
every code point and at the end. -/
def pieces (name s : Text) : List Text :=
  if name.isEmpty then [] :: (s.map fun c => [c]) ++ [[]] else piecesFrom name 0 s

def replaceName (name replacement s : Text) : Text :=
  join replacement (pieces name s)

example : replaceName "aa" "-" "aaaxaa" = ("-ax-" : Text) := by decide
example : replaceName [] "-" "ab" = ("-a-b-" : Text) := by decide

end Diagnostics.Text
