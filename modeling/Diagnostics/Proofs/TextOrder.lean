import Diagnostics.Text.Basic

/-!
# Texts are linearly ordered

A report is sorted by the order of texts, which is the order of lists over the order of code
points. Code points are ordered by their numbers, so theirs is a linear order; the order of lists
then is one too, and that of lists of texts as well, which is how a failure's key is compared.
-/

set_option autoImplicit false

namespace Diagnostics.CodePoint

theorem value_inj {a b : CodePoint} (h : a.value = b.value) : a = b := by
  cases a; cases b; cases h; rfl

instance : Std.IsLinearOrder CodePoint where
  le_refl a := Nat.le_refl a.value
  le_trans _ _ _ hab hbc := Nat.le_trans hab hbc
  le_antisymm _ _ hab hba := value_inj (Nat.le_antisymm hab hba)
  le_total a b := Nat.le_total a.value b.value

instance : Std.LawfulOrderLT CodePoint where
  lt_iff _ _ := Nat.lt_iff_le_and_not_ge

end Diagnostics.CodePoint

namespace Diagnostics.Text

instance : Std.IsLinearOrder Text := List.instIsLinearOrder

instance : Std.LawfulOrderLT Text where
  lt_iff _ _ := Std.lt_iff_le_and_not_ge

instance : Std.IsLinearOrder (List Text) := List.instIsLinearOrder

end Diagnostics.Text
