import Diagnostics.Text.Basic

/-!
# Names that are alike

A name that is not known is told together with the known names it may have been meant for. How
alike two texts are is measured by the runs of code points that they share: the longest shared run
is found first, then the longest ones to the left and to the right of it, and so on until nothing is
shared any more (`sharedCount`). What counts is twice that number against the length of both
texts together; from six tenths on, the texts are alike.

Of several longest runs the one that begins first in the left text is taken, and of those the one
that begins first in the right text. So the count depends on which text is the left one.
-/

set_option autoImplicit false

namespace Diagnostics.Text

/-! ## Shared runs -/

/-- How many code points two texts have in common at their beginnings. -/
def commonLength : Text → Text → Nat
  | a :: as, b :: bs => if a = b then commonLength as bs + 1 else 0
  | _, _ => 0

/-- A run that two texts share: how much of each stands before it, and its length. -/
structure SharedRun where
  left : Nat
  right : Nat
  length : Nat
  deriving DecidableEq, Repr

/-- The longest run that begins with a text, of which so much stands before, and that a second text
shares from a position on, unless the run known already is as long. -/
def longestAt (s : Text) (left : Nat) : (right : Nat) → Text → SharedRun → SharedRun
  | _, [], best => best
  | right, b :: t, best =>
    let length := commonLength s (b :: t)
    longestAt s left (right + 1) t (if best.length < length then ⟨left, right, length⟩ else best)

/-- The longest run that begins at a position of the left text or behind it, unless the run known
already is as long. -/
def longestFrom (t : Text) : (left : Nat) → Text → SharedRun → SharedRun
  | _, [], best => best
  | left, a :: s, best => longestFrom t (left + 1) s (longestAt (a :: s) left 0 t best)

def longestRun (s t : Text) : SharedRun :=
  longestFrom t 0 s ⟨0, 0, 0⟩

theorem longestAt_left (s : Text) (left right : Nat) (t : Text) (best : SharedRun) :
    (longestAt s left right t best).left = best.left ∨
      (longestAt s left right t best).left = left := by
  induction t generalizing right best with
  | nil => exact .inl rfl
  | cons b t ih =>
    rw [longestAt]
    split
    · exact .inr ((ih _ _).elim id id)
    · exact ih _ _

theorem longestFrom_left (t : Text) (left : Nat) (s : Text) (best : SharedRun) :
    (longestFrom t left s best).left = best.left ∨
      (longestFrom t left s best).left < left + s.length := by
  induction s generalizing left best with
  | nil => exact .inl rfl
  | cons a s ih =>
    rw [longestFrom, List.length_cons]
    have h := longestAt_left (a :: s) left 0 t best
    rcases ih (left + 1) (longestAt (a :: s) left 0 t best) with h' | h' <;> omega

theorem longestRun_left_lt {s t : Text} (h : (longestRun s t).length ≠ 0) :
    (longestRun s t).left < s.length := by
  cases s with
  | nil => exact absurd rfl h
  | cons a s =>
    rcases longestFrom_left t 0 (a :: s) ⟨0, 0, 0⟩ with h' | h' <;>
      simp only [longestRun, List.length_cons] at h' ⊢ <;> omega

/-- How many code points stand in the runs that two texts share. -/
def sharedCount (s t : Text) : Nat :=
  if (longestRun s t).length = 0 then 0
  else
    let run := longestRun s t
    sharedCount (s.take run.left) (t.take run.right) + run.length +
      sharedCount (s.drop (run.left + run.length)) (t.drop (run.right + run.length))
  termination_by s.length
  decreasing_by
    all_goals
      have := longestRun_left_lt ‹¬ (longestRun s t).length = 0›
      simp only [List.length_take, List.length_drop]
      omega

/-! ## Suggestions -/

/-- How alike a known name and a word are, as a fraction of which the numerator is doubled. -/
structure Likeness where
  shared : Nat
  total : Nat
  deriving DecidableEq, Repr

def likeness (name word : Text) : Likeness :=
  ⟨sharedCount name word, name.length + word.length⟩

/-- Whether six tenths are reached. -/
def Likeness.isClose (x : Likeness) : Bool :=
  3 * x.total ≤ 10 * x.shared

/-- Whether one name is suggested before another: by likeness, then by the larger text. -/
def goesBefore (a b : Likeness × Text) : Bool :=
  if a.1.shared * b.1.total ≠ b.1.shared * a.1.total then
    b.1.shared * a.1.total < a.1.shared * b.1.total
  else b.2 ≤ a.2

def suggestionLimit : Nat := 3

/-- The names that are most like a word, the best first. -/
def suggestions (names : List Text) (word : Text) : List Text :=
  let close := (names.map fun name => (likeness name word, name)).filter fun s => s.1.isClose
  ((close.mergeSort goesBefore).take suggestionLimit).map Prod.snd

example : sharedCount "--catalog" "--catalogue" = 9 := by decide +kernel
example : (likeness "--strict" "--trac").isClose = true := by decide +kernel
example : (likeness "--help" "--").isClose = false := by decide +kernel

end Diagnostics.Text
