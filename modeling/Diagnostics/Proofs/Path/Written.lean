import Diagnostics.Proofs.Text.Names

/-!
# Reading a path that was written down

A path that was made from a text is normal: none of its parts is empty, a single dot, or holds a
slash (`Path.isNormal_ofText`). The written form of a normal path means that path again
(`Path.IsNormal.ofText_text`), so a program that is told a path by its written form is told that
path.
-/

set_option autoImplicit false

namespace Diagnostics

namespace Text

theorem join_slash_cons_cons (first second : Text) (parts : List Text) :
    join "/" (first :: second :: parts) =
      first ++ CodePoint.ofChar '/' :: join "/" (second :: parts) := by
  rw [join_cons _ _ (List.cons_ne_nil _ _), List.append_assoc]
  rfl

/-- Parts without slashes are got back from the text that they are joined to. -/
theorem splitAtEach_join {parts : List Text} (hne : parts ≠ [])
    (hparts : ∀ part ∈ parts, ∀ c ∈ part, isSlash c = false) :
    splitAtEach isSlash (join "/" parts) = parts := by
  induction parts with
  | nil => exact absurd rfl hne
  | cons first parts ih =>
    rw [List.forall_mem_cons] at hparts
    cases parts with
    | nil => simpa [join, List.intercalate] using splitAtEach_of_forall hparts.1
    | cons second parts =>
      have hslash : isSlash (CodePoint.ofChar '/') = true := by decide
      rw [join_slash_cons_cons, splitAtEach_append hslash, splitAtEach_of_forall hparts.1,
        ih (by simp) hparts.2]
      rfl

end Text

namespace Path

/-- A path in the form that reading gives it: no part is empty, a single dot, or holds a slash. -/
def IsNormal (path : Path) : Prop :=
  ∀ part ∈ path.parts, isPart part = true ∧ ∀ c ∈ part, Text.isSlash c = false

variable {path : Path}

theorem isNormal_ofText (s : Text) : (ofText s).IsNormal := by
  intro part hpart
  obtain ⟨hsplit, hpart⟩ := List.mem_filter.mp hpart
  exact ⟨hpart, Text.forall_of_mem_splitAtEach part hsplit⟩

theorem IsNormal.child (h : path.IsNormal) {name : Text} (hpart : isPart name = true)
    (hname : ∀ c ∈ name, Text.isSlash c = false) : (path.child name).IsNormal := by
  intro part hmem
  rcases List.mem_append.mp hmem with hmem | hmem
  · exact h part hmem
  · rw [List.mem_singleton.mp hmem]
    exact ⟨hpart, hname⟩

/-- A slash at the front is no part. -/
theorem parts_ofText_cons {c : CodePoint} (hc : Text.isSlash c = true) (s : Text) :
    (ofText (c :: s)).parts = (ofText s).parts := by
  have hempty : isPart [] = false := by decide
  simp [ofText, Text.splitAtEach, hc, hempty]

theorem IsNormal.parts_ofText_join (h : path.IsNormal) :
    (ofText (Text.join "/" path.parts)).parts = path.parts := by
  by_cases hempty : path.parts = []
  · rw [hempty]
    rfl
  · have hsplit := Text.splitAtEach_join hempty fun part hpart => (h part hpart).2
    simp only [ofText, hsplit]
    exact List.filter_eq_self.mpr fun part hpart => (h part hpart).1

/-- The parts of a normal path do not begin with a slash. -/
theorem IsNormal.takeWhile_join (h : path.IsNormal) :
    (Text.join "/" path.parts).takeWhile Text.isSlash = [] := by
  cases hparts : path.parts with
  | nil => rfl
  | cons first parts =>
    obtain ⟨hpart, hfirst⟩ := h first (by simp [hparts])
    cases first with
    | nil => exact absurd hpart (by decide)
    | cons c cs =>
      have hc : Text.isSlash c = false := hfirst c List.mem_cons_self
      cases parts with
      | nil => simp [Text.join, List.intercalate, hc]
      | cons second parts => simp [Text.join_slash_cons_cons, hc]

/-- **The written form of a normal path means that path.** -/
theorem IsNormal.ofText_text (h : path.IsNormal) : ofText path.text = path := by
  have hslash : Text.isSlash (CodePoint.ofChar '/') = true := by decide
  have hparts := h.parts_ofText_join
  have hbegins := h.takeWhile_join
  obtain ⟨root, parts⟩ := path
  dsimp only at hparts hbegins
  have hread : ∀ s, ofText s = ⟨Root.ofText s, (ofText s).parts⟩ := fun s => rfl
  cases root with
  | relative =>
    by_cases hempty : parts = []
    · rw [hempty]
      decide
    · have htext : text ⟨.relative, parts⟩ = Text.join "/" parts := by
        rw [text, if_neg fun hdot => hempty hdot.2]
        rfl
      rw [htext, hread, hparts, Root.ofText, hbegins]
      rfl
  | slash =>
    have hone : Text.ofString "/" = [CodePoint.ofChar '/'] := by decide
    have htext : text ⟨.slash, parts⟩ = CodePoint.ofChar '/' :: Text.join "/" parts := by
      simp [text, Root.text, hone]
    rw [htext, hread, parts_ofText_cons hslash, hparts, Root.ofText,
      List.takeWhile_cons_of_pos hslash, hbegins]
    rfl
  | doubleSlash =>
    have htwo : Text.ofString "//" = [CodePoint.ofChar '/', CodePoint.ofChar '/'] := by decide
    have htext : text ⟨.doubleSlash, parts⟩ =
        CodePoint.ofChar '/' :: CodePoint.ofChar '/' :: Text.join "/" parts := by
      simp [text, Root.text, htwo]
    rw [htext, hread, parts_ofText_cons hslash, parts_ofText_cons hslash, hparts, Root.ofText,
      List.takeWhile_cons_of_pos hslash, List.takeWhile_cons_of_pos hslash, hbegins]
    rfl

end Path

end Diagnostics
