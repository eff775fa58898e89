import Diagnostics.Proofs.Text.Lenient

/-!
# The name of a file, shown and meant

A name on the disk is a list of octets, and it is shown as a text. Nothing is lost by that: an octet
that is no part of a character is shown as a surrogate of its own, which no character is, so the
shown name has the octets of the name (`encodeName_decodeName`) and names that are shown alike are
the same name.

The machine is followed an event at a time (`Tells`): a character was read from its octets, and an
ill-formed sequence is told with its octets, none of which is ASCII.
-/

set_option autoImplicit false

namespace Diagnostics.Text.Utf8

/-! ## The surrogate of an octet -/

theorem octetSurrogate_value (b : UInt8) :
    (CodePoint.ofNat (0xDC00 + b.toNat)).value = 0xDC00 + b.toNat := by
  have hb := b.toNat_lt
  unfold CodePoint.ofNat
  rw [dif_pos (by omega)]

/-- The surrogate of an octet that is not ASCII stands for that octet. -/
theorem nameOctetsOf_octetSurrogate {b : UInt8} (hb : 0x80 ≤ b.toNat) :
    standsForOctet (CodePoint.ofNat (0xDC00 + b.toNat)) = true ∧
      nameOctetsOf (CodePoint.ofNat (0xDC00 + b.toNat)) = [b] := by
  have hvalue := octetSurrogate_value b
  have hlt := b.toNat_lt
  have hstands : standsForOctet (CodePoint.ofNat (0xDC00 + b.toNat)) = true := by
    simp only [standsForOctet, hvalue, Bool.and_eq_true, decide_eq_true_eq]
    omega
  refine ⟨hstands, ?_⟩
  rw [nameOctetsOf, if_pos hstands, hvalue, @ofNat_eq_of_eq_toNat b _ (by omega)]

theorem standsForOctet_ofChar (c : Char) : standsForOctet (CodePoint.ofChar c) = false := by
  have hbounds := CodePoint.toNat_bounds c
  have hvalue : (CodePoint.ofChar c).value = c.toNat := rfl
  simp only [standsForOctet, hvalue, Bool.and_eq_false_iff, decide_eq_false_iff_not]
  omega

theorem nameOctetsOf_ofChar (c : Char) : nameOctetsOf (CodePoint.ofChar c) = octetsOf c.toNat := by
  rw [nameOctetsOf, standsForOctet_ofChar, if_neg Bool.false_ne_true]
  rfl

/-! ## Names are shown faithfully -/

/-- How an event is shown: an ill-formed sequence by the surrogates of its octets. -/
def shownEvent (octets : List UInt8) : Event → Text
  | .char c => [(c : CodePoint)]
  | .malformed start span _ =>
    ((octets.drop start).take span).map fun b => CodePoint.ofNat (0xDC00 + b.toNat)

theorem decodeName_eq (octets : List UInt8) :
    decodeName octets = (events octets).flatMap (shownEvent octets) := by
  unfold decodeName
  refine congrArg (List.flatMap · (events octets)) (funext fun e => ?_)
  cases e <;> rfl

/-- What is shown of the octets from a position on has these octets. -/
theorem Tells.flatMap_shown {p : Nat} {bs : List UInt8} {es : List Event} (h : Tells p bs es)
    (before : List UInt8) (hp : before.length = p) :
    (∀ c ∈ es.flatMap (shownEvent (before ++ bs)), isNameEncodable c = true) ∧
      (es.flatMap (shownEvent (before ++ bs))).flatMap nameOctetsOf = bs := by
  induction h generalizing before with
  | nil p => simp
  | @char p rest es c behind ih =>
    obtain ⟨hencodable, hoctets⟩ := ih (before ++ octetsOf c.toNat) (by simp [hp])
    have hchar : isNameEncodable (CodePoint.ofChar c) = true := by simp [isNameEncodable]
    rw [List.append_assoc] at hencodable hoctets
    rw [List.flatMap_cons, List.flatMap_append, hoctets, shownEvent, List.flatMap_singleton,
      nameOctetsOf_ofChar]
    exact ⟨List.forall_mem_cons.mpr ⟨hchar, hencodable⟩, rfl⟩
  | @malformed p octets rest es why ill behind ih =>
    obtain ⟨hencodable, hmeant⟩ := ih (before ++ octets) (by simp [hp])
    have hsurrogate := fun b hb => nameOctetsOf_octetSurrogate (ill.not_ascii b hb)
    have hshown : shownEvent (before ++ (octets ++ rest)) (.malformed p octets.length why) =
        octets.map fun b => CodePoint.ofNat (0xDC00 + b.toNat) := by
      rw [shownEvent, ← hp, List.drop_left, List.take_left]
    have hsame : (octets.map fun b => CodePoint.ofNat (0xDC00 + b.toNat)).flatMap
        nameOctetsOf = octets := by
      rw [List.flatMap_map, List.flatMap_congr fun b hb => (hsurrogate b hb).2,
        List.flatMap_singleton']
    rw [List.append_assoc] at hencodable hmeant
    rw [List.flatMap_cons, List.flatMap_append, hmeant, hshown, hsame]
    refine ⟨List.forall_mem_append.mpr ⟨fun d hd => ?_, hencodable⟩, rfl⟩
    obtain ⟨b, hb, rfl⟩ := List.mem_map.mp hd
    simp [isNameEncodable, (hsurrogate b hb).1]

/-- **A shown name has the octets of the name.** -/
theorem encodeName_decodeName (octets : List UInt8) :
    encodeName (decodeName octets) = .ok octets := by
  rw [encodeName_eq_ok_iff, decodeName_eq]
  exact (tells_eventsFrom 0 octets).flatMap_shown [] rfl

/-- Names that are shown alike are the same. -/
theorem decodeName_injective : Function.Injective decodeName := by
  intro a b h
  have ha := encodeName_decodeName a
  rw [h, encodeName_decodeName b] at ha
  exact (Except.ok.inj ha).symm

end Diagnostics.Text.Utf8
