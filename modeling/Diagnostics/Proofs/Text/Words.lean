import Diagnostics.Proofs.Text.Names
import Diagnostics.Text.Blank
import Mathlib.Data.List.Infix

/-!
# Words between blanks

The words of a text are what is left of the pieces between its blanks when the empty ones are
dropped (`words_eq`). So no word holds a blank, and a name that holds none and occurs in the text
occurs in one of its words: where it stands there is no blank to cut it (`exists_word_of_infix`). A
name with a blank in it is in no word.
-/

set_option autoImplicit false

namespace Diagnostics.Text

section

variable {α : Type} {isSeparator : α → Bool} {name s : List α}

/-- A beginning without separators is in the first piece. -/
theorem prefix_of_splitAtEach (hname : ∀ a ∈ name, isSeparator a = false) (h : name <+: s)
    {first : List α} {others : List (List α)}
    (hsplit : splitAtEach isSeparator s = first :: others) : name <+: first := by
  induction name generalizing s first others with
  | nil => exact List.nil_prefix
  | cons a name ih =>
    cases s with
    | nil => simp at h
    | cons b s =>
      obtain ⟨rfl, hprefix⟩ := List.cons_prefix_cons.mp h
      have ha : isSeparator a = false := hname a List.mem_cons_self
      obtain ⟨piece, pieces, hs⟩ := exists_splitAtEach_cons isSeparator s
      simp only [splitAtEach, ha, hs, consPiece, Bool.false_eq_true, if_false,
        List.cons.injEq] at hsplit
      obtain ⟨rfl, -⟩ := hsplit
      apply List.cons_prefix_cons.mpr
      exact ⟨rfl, ih (fun b hb => hname b (List.mem_cons_of_mem _ hb)) hprefix hs⟩

/-- What holds no separator is not cut. -/
theorem exists_piece_of_infix (hname : ∀ a ∈ name, isSeparator a = false) (h : name <:+: s) :
    ∃ piece ∈ splitAtEach isSeparator s, name <:+: piece := by
  induction s with
  | nil => exact ⟨[], by simp [splitAtEach], h⟩
  | cons a s ih =>
    obtain ⟨first, others, hsplit⟩ := exists_splitAtEach_cons isSeparator (a :: s)
    rcases List.infix_cons_iff.mp h with hprefix | hinfix
    · refine ⟨first, by simp [hsplit], ?_⟩
      exact (prefix_of_splitAtEach hname hprefix hsplit).isInfix
    · obtain ⟨piece, hpiece, hin⟩ := ih hinfix
      rw [splitAtEach]
      split
      · exact ⟨piece, List.mem_cons_of_mem _ hpiece, hin⟩
      · -- The first piece grows by the item in front, the others stay.
        obtain ⟨head, tail, hs⟩ := exists_splitAtEach_cons isSeparator s
        rw [hs, List.mem_cons] at hpiece
        rw [hs, consPiece]
        rcases hpiece with rfl | hpiece
        · exact ⟨a :: piece, List.mem_cons_self, List.infix_cons hin⟩
        · exact ⟨piece, List.mem_cons_of_mem _ hpiece, hin⟩

end

/-- A code point that joins no word is one of its own. -/
theorem joinWord_false (c : CodePoint) (ws : List Text) : joinWord c false ws = [c] :: ws := by
  cases ws <;> rfl

/-- A text begins with a word exactly if its first piece is not empty. -/
theorem startsWord_eq {s first : Text} {others : List Text}
    (h : splitAtEach isBlank s = first :: others) : startsWord s = !first.isEmpty := by
  cases s with
  | nil =>
    simp only [splitAtEach, List.cons.injEq] at h
    simp [startsWord, ← h.1]
  | cons c s =>
    obtain ⟨piece, pieces, hs⟩ := exists_splitAtEach_cons isBlank s
    rw [splitAtEach, hs] at h
    cases hc : isBlank c with
    | true =>
      simp only [hc, if_true, List.cons.injEq] at h
      simp [startsWord, hc, ← h.1]
    | false =>
      simp only [hc, Bool.false_eq_true, if_false, consPiece, List.cons.injEq] at h
      simp [startsWord, hc, ← h.1]

/-- **The words of a text** are the pieces between its blanks that are not empty. -/
theorem words_eq (s : Text) : words s = (splitAtEach isBlank s).filter (· ≠ []) := by
  induction s with
  | nil => rfl
  | cons c s ih =>
    obtain ⟨first, others, hsplit⟩ := exists_splitAtEach_cons isBlank s
    rw [hsplit] at ih
    rw [words, splitAtEach, startsWord_eq hsplit, hsplit, ih]
    cases isBlank c with
    | true => simp
    | false =>
      cases first with
      | nil => simp [joinWord_false, consPiece]
      | cons d first => simp [joinWord, consPiece]

theorem mem_words_iff {s word : Text} :
    word ∈ words s ↔ word ∈ splitAtEach isBlank s ∧ word ≠ [] := by
  simp [words_eq]

/-- A word holds no blank. -/
theorem not_isBlank_of_mem_words {s word : Text} (h : word ∈ words s) :
    ∀ c ∈ word, isBlank c = false :=
  forall_of_mem_splitAtEach word (mem_words_iff.mp h).1

/-- **A name without blanks occurs in a word** if it occurs at all. -/
theorem exists_word_of_infix {name s : Text} (hne : name ≠ [])
    (hname : ∀ c ∈ name, isBlank c = false) (h : name <:+: s) :
    ∃ word ∈ words s, name <:+: word := by
  obtain ⟨word, hword, hin⟩ := exists_piece_of_infix hname h
  refine ⟨word, mem_words_iff.mpr ⟨hword, ?_⟩, hin⟩
  rintro rfl
  exact hne (List.eq_nil_of_infix_nil hin)

end Diagnostics.Text
