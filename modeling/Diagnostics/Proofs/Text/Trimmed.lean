import Diagnostics.Text.Lines
import Mathlib.Data.List.DropRight

/-!
# What is left of a text without its ends

A text is trimmed at both of its ends (`trimBy`) and cut at its first line break (`firstLine`). Both
are said here of the text itself: what is cut off, and where what is left begins and ends. Either
description settles its result (`isTrimmed_iff`, `isFirstLine_iff`), so it may stand for it.

The characters that break a line are blank and not all blanks break a line. So a text that has been
stripped begins with a line that is not empty, unless it is empty itself.
-/

set_option autoImplicit false

namespace Diagnostics.Text

/-! ## Trimming -/

section Trimming

variable {α : Type} {leftOut : α → Bool} {s core : List α}

/-- A list is left of another without what is left out at both ends: nothing is left out of it at an
end any more. -/
structure IsTrimmed (leftOut : α → Bool) (s core : List α) : Prop where
  within : ∃ before after : List α, s = before ++ core ++ after ∧
    (∀ a ∈ before, leftOut a = true) ∧ ∀ a ∈ after, leftOut a = true
  begins : ∀ a ∈ core.head?, leftOut a = false
  ends : ∀ a ∈ core.getLast?, leftOut a = false

theorem dropWhile_of_head? (h : ∀ a ∈ s.head?, leftOut a = false) : s.dropWhile leftOut = s := by
  cases s with
  | nil => rfl
  | cons a s => simp [h a rfl]

theorem rdropWhile_of_getLast? (h : ∀ a ∈ s.getLast?, leftOut a = false) :
    s.rdropWhile leftOut = s := by
  rw [List.rdropWhile, dropWhile_of_head? (by simpa using h), List.reverse_reverse]

theorem isTrimmed_trimBy (leftOut : α → Bool) (s : List α) :
    IsTrimmed leftOut s (trimBy leftOut s) where
  within := by
    refine ⟨s.takeWhile leftOut, (s.dropWhile leftOut).rtakeWhile leftOut, ?_,
      fun a => List.mem_takeWhile_imp, fun a => List.mem_rtakeWhile_imp⟩
    have hrest : trimBy leftOut s ++ (s.dropWhile leftOut).rtakeWhile leftOut =
        s.dropWhile leftOut :=
      List.rdropWhile_append_rtakeWhile ..
    rw [List.append_assoc, hrest, List.takeWhile_append_dropWhile]
  begins := by
    intro a ha
    have hprefix : trimBy leftOut s <+: s.dropWhile leftOut := List.rdropWhile_prefix ..
    obtain ⟨after, hafter⟩ := hprefix
    have hhead : a ∈ (s.dropWhile leftOut).head? := by
      rw [← hafter, List.head?_append, Option.mem_def.mp ha]
      rfl
    have hout := List.head?_dropWhile_not leftOut s
    rw [Option.mem_def.mp hhead] at hout
    simpa using hout
  ends := by
    intro a ha
    rw [trimBy, List.getLast?_reverse] at ha
    have hout := List.head?_dropWhile_not leftOut (s.dropWhile leftOut).reverse
    rw [Option.mem_def.mp ha] at hout
    simpa using hout

/-- What begins and ends with something that is not left out is all that is left of it with more to
leave out at both ends. -/
theorem IsTrimmed.eq_trimBy (h : IsTrimmed leftOut s core) : core = trimBy leftOut s := by
  obtain ⟨before, after, rfl, hbefore, hafter⟩ := h.within
  have hdropped :
      (before ++ core ++ after).dropWhile leftOut = (core ++ after).dropWhile leftOut := by
    rw [List.append_assoc, List.dropWhile_append_of_pos hbefore]
  unfold trimBy
  rw [hdropped]
  by_cases hcore : core = []
  · subst hcore
    rw [List.nil_append, List.dropWhile_eq_nil_iff.mpr hafter]
    rfl
  · have hbegins : ∀ a ∈ (core ++ after).head?, leftOut a = false := by
      rw [List.head?_append_of_ne_nil _ hcore]
      exact h.begins
    rw [dropWhile_of_head? hbegins, List.reverse_append,
      List.dropWhile_append_of_pos (by simpa using hafter)]
    exact (rdropWhile_of_getLast? h.ends).symm

theorem isTrimmed_iff : IsTrimmed leftOut s core ↔ core = trimBy leftOut s := by
  constructor
  · exact IsTrimmed.eq_trimBy
  · rintro rfl
    exact isTrimmed_trimBy leftOut s

/-- What is left begins with the first item that is not left out, if there is one. -/
theorem IsTrimmed.exists_cons (h : IsTrimmed leftOut s core) {a : α} (ha : a ∈ s)
    (hkept : leftOut a = false) :
    ∃ first rest, core = first :: rest ∧ leftOut first = false ∧ first ∈ s := by
  obtain ⟨before, after, rfl, hbefore, hafter⟩ := h.within
  cases core with
  | nil =>
    have hout : leftOut a = true := by
      rw [List.append_nil, List.mem_append] at ha
      exact ha.elim (hbefore a) (hafter a)
    exact absurd hout (by simp [hkept])
  | cons first rest => exact ⟨first, rest, rfl, h.begins first rfl, by simp⟩

end Trimming

/-! ## The first line -/

/-- A text is the first line of another: no line ends in it, and the other ends with it or goes on
with a line break. -/
structure IsFirstLine (s line : Text) : Prop where
  unbroken : ∀ c ∈ line, isLineBreak c = false
  cut : ∃ rest : Text, s = line ++ rest ∧ ∀ c ∈ rest.head?, isLineBreak c = true

theorem isFirstLine_firstLine (s : Text) : IsFirstLine s s.firstLine where
  unbroken := fun c hc => by simpa using List.mem_takeWhile_imp hc
  cut := by
    refine ⟨s.dropWhile fun c => !isLineBreak c, List.takeWhile_append_dropWhile.symm, ?_⟩
    intro c hc
    have hbreak := List.head?_dropWhile_not (fun c => !isLineBreak c) s
    rw [Option.mem_def.mp hc] at hbreak
    simpa using hbreak

theorem IsFirstLine.eq_firstLine {s line : Text} (h : IsFirstLine s line) : line = s.firstLine := by
  obtain ⟨rest, rfl, hrest⟩ := h.cut
  have hunbroken : ∀ c ∈ line, (!isLineBreak c) = true := by simpa using h.unbroken
  have hstop : rest.takeWhile (fun c => !isLineBreak c) = [] := by
    cases rest with
    | nil => rfl
    | cons c rest => simp [hrest c rfl]
  rw [firstLine, List.takeWhile_append_of_pos hunbroken, hstop, List.append_nil]

theorem isFirstLine_iff {s line : Text} : IsFirstLine s line ↔ line = s.firstLine := by
  constructor
  · exact IsFirstLine.eq_firstLine
  · rintro rfl
    exact isFirstLine_firstLine s

theorem isBlank_of_isLineBreak {c : CodePoint} (h : isLineBreak c = true) : isBlank c = true := by
  simp only [isLineBreak, isBlank, Bool.or_eq_true, Bool.and_eq_true, decide_eq_true_eq,
    beq_iff_eq] at h ⊢
  omega

/-- A text that begins with a character that is not blank has a first line that does. -/
theorem IsFirstLine.exists_cons {c : CodePoint} {s line : Text} (h : IsFirstLine (c :: s) line)
    (hc : isBlank c = false) : ∃ rest, line = c :: rest := by
  have hbreak : isLineBreak c = false := by
    by_contra hnot
    have hblank := isBlank_of_isLineBreak (by simpa using hnot)
    exact absurd hblank (by simp [hc])
  rw [h.eq_firstLine, firstLine]
  exact ⟨_, List.takeWhile_cons_of_pos (by simp [hbreak])⟩

/-! ## Blank texts -/

theorem allBlank_iff {s : Text} : s.allBlank = true ↔ ∀ c ∈ s, isBlank c = true := by
  unfold allBlank
  exact List.all_eq_true

theorem exists_not_isBlank {s : Text} (h : s.allBlank = false) : ∃ c ∈ s, isBlank c = false := by
  unfold allBlank at h
  simpa using h

theorem strip_of_allBlank {s : Text} (h : s.allBlank = true) : s.strip = [] := by
  have htrimmed : IsTrimmed isBlank s [] :=
    ⟨⟨s, [], by simp, allBlank_iff.mp h, by simp⟩, by simp, by simp⟩
  exact htrimmed.eq_trimBy.symm

end Diagnostics.Text
