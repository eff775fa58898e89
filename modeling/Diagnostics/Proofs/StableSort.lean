import Mathlib.Data.List.Nodup

/-!
# What a stable sort by a key is determined by

A merge sort is stable: items of one key leave it in the order in which they came. So what it gives
depends on nothing but, for each key, the list of the items with that key; in particular two lists
that mix the same sequences in different ways are sorted to the same list, as long as items of
different sequences have different keys. The order of items of *one* key is not forgotten, which is
why the hypothesis is about filtered lists and not about permutations.
-/

set_option autoImplicit false

namespace Diagnostics.StableSort

variable {α κ : Type} {key : α → κ}

/-- Permuted lists whose items have different keys have the same items of each key. -/
theorem filter_eq_of_perm_of_nodup [DecidableEq κ] {xs ys : List α} (hp : xs.Perm ys)
    (hn : (xs.map key).Nodup) (k : κ) :
    xs.filter (key · = k) = ys.filter (key · = k) := by
  have hle : (xs.filter (key · = k)).length ≤ 1 := by
    have hcount : (xs.map key).count k ≤ 1 := List.nodup_iff_count_le_one.mp hn k
    rwa [List.count_eq_countP, List.countP_map, List.countP_eq_length_filter] at hcount
  have hpf := hp.filter (key · = k)
  cases hf : xs.filter (key · = k) with
  | nil =>
    rw [hf] at hpf
    exact hpf.nil_eq
  | cons a rest =>
    have hrest : rest = [] := by
      rw [hf] at hle
      exact List.length_eq_zero_iff.mp (by simpa using hle)
    subst hrest
    rw [hf] at hpf
    exact (List.perm_singleton.mp hpf.symm).symm

variable [LE κ]

section

variable [Std.IsLinearOrder κ] [DecidableEq κ]

/-- **Two sorted lists with the same items of each key are equal.** Each head is among the items of
the other list, so neither key is below the other; then the heads are the first items of one key. -/
theorem eq_of_pairwise_of_filter_eq : ∀ {xs ys : List α},
    xs.Pairwise (fun a b => key a ≤ key b) → ys.Pairwise (fun a b => key a ≤ key b) →
    (∀ k, xs.filter (key · = k) = ys.filter (key · = k)) → xs = ys
  | [], [], _, _, _ => rfl
  | [], y :: ys, _, _, h => by
    have := h (key y)
    simp at this
  | x :: xs, [], _, _, h => by
    have := h (key x)
    simp at this
  | x :: xs, y :: ys, hx, hy, h => by
    have hxmem : x ∈ (y :: ys).filter (key · = key x) := by
      rw [← h]; simp
    have hymem : y ∈ (x :: xs).filter (key · = key y) := by
      rw [h]; simp
    have hyx : key y ≤ key x := by
      rcases List.mem_cons.mp (List.mem_filter.mp hxmem).1 with rfl | hm
      · exact Std.IsPreorder.le_refl _
      · exact List.rel_of_pairwise_cons hy hm
    have hxy : key x ≤ key y := by
      rcases List.mem_cons.mp (List.mem_filter.mp hymem).1 with rfl | hm
      · exact Std.IsPreorder.le_refl _
      · exact List.rel_of_pairwise_cons hx hm
    have hkey : key x = key y := Std.IsPartialOrder.le_antisymm _ _ hxy hyx
    have hhead : x = y := by
      have := h (key x)
      simp only [List.filter_cons, hkey, decide_true, if_true, List.cons.injEq] at this
      exact this.1
    subst hhead
    have htail : ∀ k, xs.filter (key · = k) = ys.filter (key · = k) := by
      intro k
      have := h k
      by_cases hk : key x = k
      · simpa [List.filter_cons, hk] using this
      · simpa [List.filter_cons, hk] using this
    rw [eq_of_pairwise_of_filter_eq (List.pairwise_cons.mp hx).2 (List.pairwise_cons.mp hy).2
      htail]

end

variable [DecidableLE κ]

def byKey (key : α → κ) (items : List α) : List α :=
  items.mergeSort fun a b => key a ≤ key b

theorem byKey_perm (items : List α) : (byKey key items).Perm items :=
  List.mergeSort_perm items _

variable [Std.IsLinearOrder κ]

theorem decide_le_trans (a b c : α) (hab : decide (key a ≤ key b) = true)
    (hbc : decide (key b ≤ key c) = true) : decide (key a ≤ key c) = true := by
  simp only [decide_eq_true_eq] at *
  exact Std.IsPreorder.le_trans _ _ _ hab hbc

theorem decide_le_total (a b : α) :
    (decide (key a ≤ key b) || decide (key b ≤ key a)) = true := by
  simpa using Std.IsLinearPreorder.le_total (key a) (key b)

theorem pairwise_byKey (items : List α) :
    (byKey key items).Pairwise fun a b => key a ≤ key b := by
  have h := @List.pairwise_mergeSort α (fun a b => decide (key a ≤ key b)) decide_le_trans
    decide_le_total items
  simpa [byKey] using h

variable [DecidableEq κ]

/-- **Stability**: the items of one key keep their order. -/
theorem filter_byKey (k : κ) (items : List α) :
    (byKey key items).filter (key · = k) = items.filter (key · = k) := by
  have hsub : (items.filter (key · = k)).Sublist (byKey key items) := by
    unfold byKey
    refine List.sublist_mergeSort decide_le_trans decide_le_total ?_ List.filter_sublist
    -- Items of one key stand in any order.
    refine List.pairwise_of_forall_mem_list fun a ha b hb => ?_
    have hak : key a = k := by simpa using (List.mem_filter.mp ha).2
    have hbk : key b = k := by simpa using (List.mem_filter.mp hb).2
    rw [hak, hbk]
    exact decide_eq_true (Std.IsPreorder.le_refl k)
  have hkept := hsub.filter (key · = k)
  rw [List.filter_filter] at hkept
  simp only [Bool.and_self] at hkept
  exact (hkept.eq_of_length ((byKey_perm items).filter _).length_eq.symm).symm

/-- A stable sort depends on the items of each key alone. -/
theorem byKey_eq_of_filter_eq {xs ys : List α}
    (h : ∀ k, xs.filter (key · = k) = ys.filter (key · = k)) :
    byKey key xs = byKey key ys := by
  refine eq_of_pairwise_of_filter_eq (pairwise_byKey xs) (pairwise_byKey ys) fun k => ?_
  rw [filter_byKey, filter_byKey, h k]

end Diagnostics.StableSort
