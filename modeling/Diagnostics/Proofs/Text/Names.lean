import Diagnostics.Path
import Diagnostics.Text.Utf8
import Mathlib.Data.List.Basic
import Mathlib.Tactic.Common

/-!
# Names between slashes

A path is split at its slashes twice: as a text, into its parts, and as octets, into the names that
are looked up. The two agree because no code point but the slash itself has the octet of a slash. A
text that is the name of a file by itself has no slash, and its octets are one name.
-/

set_option autoImplicit false

namespace Diagnostics

namespace Text

variable {α : Type} {isSeparator : α → Bool}

/-! ## Splitting -/

theorem splitAtEach_ne_nil (s : List α) : splitAtEach isSeparator s ≠ [] := by
  cases s with
  | nil => simp [splitAtEach]
  | cons a s =>
    unfold splitAtEach
    split
    · simp
    · cases splitAtEach isSeparator s <;> simp [consPiece]

variable (isSeparator) in
/-- There is a first piece. -/
theorem exists_splitAtEach_cons (s : List α) :
    ∃ first others, splitAtEach isSeparator s = first :: others :=
  List.exists_cons_of_ne_nil (splitAtEach_ne_nil s)

theorem consPiece_append (a : α) {pieces : List (List α)} (h : pieces ≠ [])
    (others : List (List α)) : consPiece a (pieces ++ others) = consPiece a pieces ++ others := by
  cases pieces with
  | nil => exact absurd rfl h
  | cons piece pieces => rfl

/-- A separator keeps the pieces on its sides apart. -/
theorem splitAtEach_append {x : α} (hx : isSeparator x = true) (a b : List α) :
    splitAtEach isSeparator (a ++ x :: b) =
      splitAtEach isSeparator a ++ splitAtEach isSeparator b := by
  induction a with
  | nil => simp [splitAtEach, hx]
  | cons c a ih =>
    rw [List.cons_append, splitAtEach, splitAtEach, ih]
    split
    · rfl
    · rw [consPiece_append c (splitAtEach_ne_nil a)]

theorem splitAtEach_of_forall {s : List α} (h : ∀ a ∈ s, isSeparator a = false) :
    splitAtEach isSeparator s = [s] := by
  induction s with
  | nil => rfl
  | cons a s ih =>
    rw [splitAtEach, if_neg (by simp [h a List.mem_cons_self]),
      ih fun b hb => h b (List.mem_cons_of_mem _ hb)]
    rfl

theorem forall_of_mem_splitAtEach {s : List α} :
    ∀ piece ∈ splitAtEach isSeparator s, ∀ a ∈ piece, isSeparator a = false := by
  induction s with
  | nil => simp [splitAtEach]
  | cons a s ih =>
    intro piece hpiece
    rw [splitAtEach] at hpiece
    split at hpiece
    · rcases List.mem_cons.mp hpiece with rfl | hpiece
      · simp
      · exact ih piece hpiece
    · rename_i ha
      obtain ⟨first, others, hsplit⟩ := exists_splitAtEach_cons isSeparator s
      rw [hsplit] at hpiece ih
      rcases List.mem_cons.mp hpiece with rfl | hpiece
      · intro b hb
        rcases List.mem_cons.mp hb with rfl | hb
        · simpa using ha
        · exact ih first List.mem_cons_self b hb
      · exact ih piece (List.mem_cons_of_mem _ hpiece)

theorem join_cons (separator part : Text) {parts : List Text} (h : parts ≠ []) :
    join separator (part :: parts) = part ++ separator ++ join separator parts := by
  obtain ⟨first, others, rfl⟩ := List.exists_cons_of_ne_nil h
  rw [join, List.intercalate_cons_cons]
  rfl

theorem join_append_singleton (separator part : Text) {parts : List Text} (h : parts ≠ []) :
    join separator (parts ++ [part]) = join separator parts ++ separator ++ part := by
  induction parts with
  | nil => exact absurd rfl h
  | cons first parts ih =>
    by_cases hparts : parts = []
    · simp [hparts, join]
    · rw [List.cons_append, join_cons _ _ (by simp), join_cons _ _ hparts, ih hparts]
      simp only [List.append_assoc]

end Text

/-! ## Octets of names -/

namespace Text.Utf8

theorem firstError?_eq_none_iff {encodable : CodePoint → Bool} {position : Nat} {s : Text} :
    firstError? encodable position s = none ↔ ∀ c ∈ s, encodable c = true := by
  induction s generalizing position with
  | nil => simp [firstError?]
  | cons c s ih =>
    unfold firstError?
    split
    · rw [ih]
      simp [*]
    · simp [*]

/-- A text is the name of a file if each of its code points can be in one. -/
theorem encodeName_eq_ok_iff {s : Text} {octets : List UInt8} :
    encodeName s = .ok octets ↔
      (∀ c ∈ s, isNameEncodable c = true) ∧ s.flatMap nameOctetsOf = octets := by
  unfold encodeName
  cases h : firstError? isNameEncodable 0 s with
  | none =>
    have hall := firstError?_eq_none_iff.mp h
    exact ⟨fun heq => ⟨hall, Except.ok.inj heq⟩, fun hboth => congrArg Except.ok hboth.2⟩
  | some e =>
    have hnot : ¬ ∀ c ∈ s, isNameEncodable c = true := by
      rw [← @firstError?_eq_none_iff isNameEncodable 0, h]
      exact Option.some_ne_none e
    constructor
    · exact fun heq => nomatch heq
    · exact fun hboth => absurd hboth.1 hnot

theorem encodeName_append {a b : Text} {octets : List UInt8} (h : encodeName (a ++ b) = .ok octets) :
    ∃ x y, encodeName a = .ok x ∧ encodeName b = .ok y ∧ octets = x ++ y := by
  obtain ⟨hall, hoctets⟩ := encodeName_eq_ok_iff.mp h
  rw [List.flatMap_append] at hoctets
  exact ⟨_, _, encodeName_eq_ok_iff.mpr ⟨fun c hc => hall c (List.mem_append_left _ hc), rfl⟩,
    encodeName_eq_ok_iff.mpr ⟨fun c hc => hall c (List.mem_append_right _ hc), rfl⟩, hoctets.symm⟩

/-- Octets of ASCII are those of the code points of the same number, and of no others. -/
theorem eq_of_mem_octetsOf {n : Nat} (hn : n < 0x110000) {b : UInt8} (hb : b.toNat < 0x80)
    (h : b ∈ octetsOf n) : n = b.toNat := by
  have hof : ∀ m, b = UInt8.ofNat m → b.toNat = m % 256 := by
    rintro m rfl
    exact UInt8.toNat_ofNat'
  unfold octetsOf at h
  split at h
  · have hm := hof n (by simpa using h)
    omega
  · split at h
    · simp only [List.mem_cons, List.not_mem_nil, or_false] at h
      rcases h with h | h
      all_goals
        have hm := hof _ h
        omega
    · split at h
      all_goals
        simp only [List.mem_cons, List.not_mem_nil, or_false] at h
      · rcases h with h | h | h
        all_goals
          have hm := hof _ h
          omega
      · rcases h with h | h | h | h
        all_goals
          have hm := hof _ h
          omega

theorem eq_of_mem_nameOctetsOf {c : CodePoint} {b : UInt8} (hb : b.toNat < 0x80)
    (h : b ∈ nameOctetsOf c) : c.value = b.toNat := by
  unfold nameOctetsOf at h
  split at h
  · rename_i hstands
    have hbounds : 0xDC80 ≤ c.value ∧ c.value ≤ 0xDCFF := by
      simpa [standsForOctet] using hstands
    have hb' : b = UInt8.ofNat (c.value - 0xDC00) := List.mem_singleton.mp h
    have hm : b.toNat = (c.value - 0xDC00) % 256 := by
      rw [hb']
      exact UInt8.toNat_ofNat'
    omega
  · exact eq_of_mem_octetsOf c.value_lt hb h

theorem slash_not_mem_nameOctetsOf {c : CodePoint} (h : c ≠ CodePoint.ofChar '/') :
    (0x2F : UInt8) ∉ nameOctetsOf c := by
  intro hmem
  have hvalue : c.value = 0x2F := eq_of_mem_nameOctetsOf (by decide) hmem
  refine h ?_
  cases c
  exact CodePoint.mk.injEq .. ▸ hvalue

theorem octetsOf_ne_nil (n : Nat) : octetsOf n ≠ [] := by
  unfold octetsOf
  repeat' split
  all_goals exact List.cons_ne_nil _ _

theorem nameOctetsOf_ne_nil (c : CodePoint) : nameOctetsOf c ≠ [] := by
  unfold nameOctetsOf
  split
  · exact List.cons_ne_nil _ _
  · exact octetsOf_ne_nil _

/-- A name whose octets are ASCII is made of the code points of these numbers. -/
theorem map_value_of_ascii {s : Text} : ∀ {octets : List UInt8}, (∀ b ∈ octets, b.toNat < 0x80) →
    s.flatMap nameOctetsOf = octets → s.map CodePoint.value = octets.map UInt8.toNat := by
  induction s with
  | nil =>
    rintro octets - rfl
    rfl
  | cons c s ih =>
    rintro octets hascii rfl
    rw [List.flatMap_cons] at hascii ⊢
    obtain ⟨b, rest, hc⟩ := List.exists_cons_of_ne_nil (nameOctetsOf_ne_nil c)
    have hvalue : c.value = b.toNat := by
      refine eq_of_mem_nameOctetsOf (hascii b ?_) (hc ▸ List.mem_cons_self)
      exact List.mem_append_left _ (hc ▸ List.mem_cons_self)
    have hsingle : nameOctetsOf c = [b] := by
      have hlt : c.value < 0x80 := hvalue ▸ hascii b (List.mem_append_left _ (hc ▸ List.mem_cons_self))
      have hstands : standsForOctet c = false := by
        simp only [standsForOctet, Bool.and_eq_false_iff, decide_eq_false_iff_not]
        omega
      unfold nameOctetsOf octetsOf
      rw [hstands, if_neg Bool.false_ne_true, if_pos hlt, hvalue, UInt8.ofNat_toNat]
    rw [List.map_cons, List.map_append, hsingle, hvalue,
      ih (fun b hb => hascii b (List.mem_append_right _ hb)) rfl]
    rfl

/-- A name whose octets are ASCII has one spelling. -/
theorem eq_of_encodeName_ascii {s t : Text} {octets : List UInt8}
    (hascii : ∀ b ∈ octets, b.toNat < 0x80) (hs : encodeName s = .ok octets)
    (ht : encodeName t = .ok octets) : s = t := by
  have hvalues : s.map CodePoint.value = t.map CodePoint.value :=
    (map_value_of_ascii hascii (encodeName_eq_ok_iff.mp hs).2).trans
      (map_value_of_ascii hascii (encodeName_eq_ok_iff.mp ht).2).symm
  refine List.map_injective_iff.mpr (fun c _ hvalue => ?_) hvalues
  cases c
  exact CodePoint.mk.injEq .. ▸ hvalue

end Text.Utf8

end Diagnostics
