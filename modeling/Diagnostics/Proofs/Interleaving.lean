import Mathlib.Data.List.Perm.Basic

/-!
# Interleavings of any number of lists

`Interleaves parts whole` says that `whole` was made by taking elements from `parts`, each in its
own order and with none left over. A record that several writers share is such a list, and it grows
at its end; so the relation does as well, by one element of one part at a time. In which order the
parts are listed does not matter.
-/

set_option autoImplicit false

namespace Diagnostics

variable {α : Type}

/-- A list is an interleaving of others. -/
inductive Interleaves : List (List α) → List α → Prop
  | nil : Interleaves [] []
  | idle {parts : List (List α)} {whole : List α} :
      Interleaves parts whole → Interleaves ([] :: parts) whole
  /-- What is added to a part is added to the whole. -/
  | add {part : List α} {parts : List (List α)} {whole : List α} (x : α) :
      Interleaves (part :: parts) whole → Interleaves ((part ++ [x]) :: parts) (whole ++ [x])
  /-- The parts have no order. -/
  | perm {parts parts' : List (List α)} {whole : List α} :
      parts.Perm parts' → Interleaves parts whole → Interleaves parts' whole

namespace Interleaves

variable {parts : List (List α)} {whole : List α}

/-- Only empty parts make nothing. -/
theorem of_forall_nil : ∀ {parts : List (List α)}, (∀ part ∈ parts, part = []) →
    Interleaves parts []
  | [], _ => nil
  | part :: parts, h => by
    have hpart : part = [] := h part List.mem_cons_self
    rw [hpart]
    exact (of_forall_nil fun p hp => h p (List.mem_cons_of_mem _ hp)).idle

theorem append {part : List α} (h : Interleaves (part :: parts) whole) (xs : List α) :
    Interleaves ((part ++ xs) :: parts) (whole ++ xs) := by
  induction xs generalizing part whole with
  | nil => simpa using h
  | cons x xs ih =>
    have hx := ih (h.add x)
    rwa [List.append_assoc, List.append_assoc] at hx

theorem append_middle {before after : List (List α)} {part : List α}
    (h : Interleaves (before ++ part :: after) whole) (xs : List α) :
    Interleaves (before ++ (part ++ xs) :: after) (whole ++ xs) :=
  ((h.perm List.perm_middle).append xs).perm List.perm_middle.symm

/-- Nothing is lost and nothing is made twice. -/
theorem perm_flatten (h : Interleaves parts whole) : whole.Perm parts.flatten := by
  induction h with
  | nil => exact List.Perm.nil
  | idle _ ih => simpa using ih
  | add x _ ih =>
    rw [List.flatten_cons, List.append_assoc]
    rw [List.flatten_cons] at ih
    refine (ih.append_right [x]).trans ?_
    rw [List.append_assoc]
    exact (List.perm_append_comm).append_left _
  | perm hp _ ih => exact ih.trans hp.flatten

/-- Each part keeps its order. -/
theorem sublist (h : Interleaves parts whole) : ∀ part ∈ parts, part.Sublist whole := by
  induction h with
  | nil => simp
  | idle _ ih =>
    intro part hpart
    rcases List.mem_cons.mp hpart with rfl | hpart
    · exact List.nil_sublist _
    · exact ih part hpart
  | add x _ ih =>
    intro part hpart
    rcases List.mem_cons.mp hpart with rfl | hpart
    · exact (ih _ List.mem_cons_self).append_right [x]
    · exact (ih part (List.mem_cons_of_mem _ hpart)).trans (List.sublist_append_left _ _)
  | perm hp _ ih => exact fun part hpart => ih part (hp.mem_iff.mpr hpart)

/-- Elements may be left out of all parts and of the whole. -/
theorem filter (p : α → Bool) (h : Interleaves parts whole) :
    Interleaves (parts.map (List.filter p)) (whole.filter p) := by
  induction h with
  | nil => exact nil
  | idle _ ih => exact ih.idle
  | add x _ ih =>
    rw [List.map_cons, List.filter_append, List.filter_append]
    exact ih.append _
  | perm hp _ ih => exact ih.perm (hp.map _)

/-- With only one part that is not empty, the whole is that part. -/
theorem eq_of_forall_nil {part : List α} (h : Interleaves (part :: parts) whole)
    (hnil : ∀ p ∈ parts, p = []) : whole = part := by
  have hflat : parts.flatten = [] := List.flatten_eq_nil_iff.mpr hnil
  -- The part is a sublist of the whole and as long as it.
  have hlength : whole.length = part.length := by
    have hperm := h.perm_flatten.length_eq
    rwa [List.flatten_cons, hflat, List.append_nil] at hperm
  exact ((h.sublist part List.mem_cons_self).eq_of_length hlength.symm).symm

end Interleaves

end Diagnostics
