import Diagnostics.Text.Basic

/-!
# Blank characters

Names in a catalog must not be blank, option values are trimmed, and the arguments of a program
are the words between blanks. All three ask the same question of a code point, so the class is
settled here once: it is the set of characters with Unicode's `White_Space` property together
with the four ASCII separators U+001C to U+001F. The zero-width characters (U+200B, U+FEFF) and
U+180E are *not* blank.
-/

set_option autoImplicit false

namespace Diagnostics.Text

/-- Whether a code point separates words. -/
def isBlank (c : CodePoint) : Bool :=
  let n := c.value
  (0x09 ≤ n && n ≤ 0x0D) || (0x1C ≤ n && n ≤ 0x20) || n == 0x85 || n == 0xA0 || n == 0x1680 ||
    (0x2000 ≤ n && n ≤ 0x200A) || n == 0x2028 || n == 0x2029 || n == 0x202F || n == 0x205F ||
    n == 0x3000

/-- Whether a text holds nothing but blanks; the empty text does. -/
def allBlank (s : Text) : Bool :=
  s.all isBlank

def strip (s : Text) : Text :=
  trimBy isBlank s

/-- Whether a text goes on with a code point that is not blank. -/
def startsWord : Text → Bool
  | [] => false
  | c :: _ => !isBlank c

/-- Puts a code point in front of a list of words: into the first one, or as a word of its own. -/
def joinWord (c : CodePoint) (joins : Bool) : List Text → List Text
  | w :: ws => if joins then (c :: w) :: ws else [c] :: w :: ws
  | [] => [[c]]

/-- The maximal runs of code points that are not blank, in order. A code point that is not blank
joins the run that follows it immediately, if one does. -/
def words : Text → List Text
  | [] => []
  | c :: cs => if isBlank c then words cs else joinWord c (startsWord cs) (words cs)

/-! ## Small facts -/

@[simp] theorem words_nil : words [] = [] := rfl

example : words " a  b\tcd " = (["a", "b", "cd"] : List Text) := by decide
example : strip "\x1f a b \n" = ("a b" : Text) := by decide

end Diagnostics.Text
