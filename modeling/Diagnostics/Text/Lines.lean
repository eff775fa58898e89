import Diagnostics.Text.Blank

/-!
# Lines and newlines

Two different questions are asked of line ends. Files and the output of programs are *read* with
the three newline spellings unified (`unifyNewlines`), whereas the first *line* of a message ends
at any character that breaks a line (`isLineBreak`), which is a larger class.
-/

set_option autoImplicit false

namespace Diagnostics.Text

/-- Whether a code point ends a line: the ASCII vertical movements, the separators U+001C to
U+001E, NEL, and the line and paragraph separators. U+001F is blank and yet ends no line. -/
def isLineBreak (c : CodePoint) : Bool :=
  let n := c.value
  (0x0A ≤ n && n ≤ 0x0D) || (0x1C ≤ n && n ≤ 0x1E) || n == 0x85 || n == 0x2028 || n == 0x2029

def firstLine (s : Text) : Text :=
  s.takeWhile fun c => !isLineBreak c

/-- A carriage return, alone or before a line feed, becomes one line feed. -/
def unifyNewlines : List Char → List Char
  | [] => []
  | '\r' :: '\n' :: cs => '\n' :: unifyNewlines cs
  | c :: cs => (if c = '\r' then '\n' else c) :: unifyNewlines cs

theorem not_mem_unifyNewlines (s : List Char) : '\r' ∉ unifyNewlines s := by
  fun_induction unifyNewlines s with
  | case1 => simp
  | case2 cs ih => simpa using ih
  | case3 c cs h ih =>
    by_cases hc : c = '\r'
    · simpa [hc] using ih
    · simpa [hc, Ne.symm hc] using ih

theorem unifyNewlines_eq_self {s : List Char} (h : '\r' ∉ s) : unifyNewlines s = s := by
  fun_induction unifyNewlines s with
  | case1 => rfl
  | case2 cs ih => simp at h
  | case3 c cs _ ih =>
    simp only [List.mem_cons, not_or] at h
    simp [Ne.symm h.1, ih h.2]

end Diagnostics.Text
