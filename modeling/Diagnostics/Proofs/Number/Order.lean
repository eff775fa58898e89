import Diagnostics.Number.Binary64

/-!
# Binary64 numbers in order

Two numbers compare one way or the other unless one of them is a NaN. So the negation of a
comparison is the opposite comparison (`not_le`, `not_lt`) for numbers that are numbers, and for
these only.
-/

set_option autoImplicit false

namespace Diagnostics.Binary64

/-- Comparing the other way round gives the opposite answer. -/
theorem compare?_swap (a b : Binary64) : compare? b a = (compare? a b).map Ordering.swap := by
  cases a with
  | nan => cases b <;> rfl
  | infinite s =>
    cases b with
    | nan => rfl
    | infinite t => cases s <;> cases t <;> rfl
    | finite t n f => cases s <;> rfl
  | finite s m e =>
    cases b with
    | nan => rfl
    | infinite t => cases t <;> rfl
    | finite t n f =>
      simp only [compare?, Option.map_some, Option.some.injEq, Int.min_comm f e]
      exact Std.OrientedCmp.eq_swap

/-- Two numbers compare if neither is a NaN. -/
theorem exists_compare? {a b : Binary64} (ha : a ≠ nan) (hb : b ≠ nan) :
    ∃ order, compare? a b = some order := by
  cases a <;> cases b <;> simp [compare?] at ha hb ⊢

theorem lt_iff_compare?_eq_gt {a b : Binary64} : b < a ↔ compare? a b = some .gt := by
  show compare? b a = some .lt ↔ _
  rw [compare?_swap a b]
  cases compare? a b with
  | none => simp
  | some order => cases order <;> simp

theorem not_le_of_lt {a b : Binary64} (h : b < a) : ¬ a ≤ b := by
  rw [lt_iff_compare?_eq_gt] at h
  rintro (hlt | heq)
  · rw [h] at hlt
    cases hlt
  · rw [h] at heq
    cases heq

theorem not_le {a b : Binary64} (ha : a ≠ nan) (hb : b ≠ nan) : ¬ a ≤ b ↔ b < a := by
  refine ⟨fun h => ?_, not_le_of_lt⟩
  obtain ⟨order, horder⟩ := exists_compare? ha hb
  cases order with
  | lt => exact absurd (Or.inl horder) h
  | eq => exact absurd (Or.inr horder) h
  | gt => exact lt_iff_compare?_eq_gt.mpr horder

theorem not_lt {a b : Binary64} (ha : a ≠ nan) (hb : b ≠ nan) : ¬ a < b ↔ b ≤ a := by
  rw [← not_le hb ha, Decidable.not_not]

theorem not_lt_of_le {a b : Binary64} (h : b ≤ a) : ¬ a < b :=
  fun hlt => not_le_of_lt hlt h

end Diagnostics.Binary64
