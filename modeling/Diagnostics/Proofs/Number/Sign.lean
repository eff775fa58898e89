import Diagnostics.Proofs.Number.Order
import Mathlib.Algebra.Order.Ring.Int
import Mathlib.Tactic.SplitIfs

/-!
# Which side of zero a rounded number is on

Rounding can bring a small ratio to zero, but none that is at least one (`zero_lt_ofRatio`). So a
positive integer is read as a positive number, and one that is not negative as a number that is not
below zero.
-/

set_option autoImplicit false

namespace Diagnostics.Binary64

theorem zero_ne_nan : (0 : Binary64) ≠ nan := by
  rintro ⟨⟩

theorem zero_lt_infinite : 0 < infinite false := by decide

theorem zero_lt_finite {mantissa : Nat} (h : 0 < mantissa) (exponent : Int) :
    0 < finite false mantissa exponent := by
  show some (compare (inUnits false 0 leastExponent _) (inUnits false mantissa exponent _)) =
    some .lt
  simpa [inUnits, compare_lt_iff_lt] using h

/-! ## Rounding -/

/-- A quotient is not rounded below its whole part. -/
theorem div_le_roundQuotient (numerator denominator : Nat) :
    numerator / denominator ≤ roundQuotient numerator denominator := by
  unfold roundQuotient
  dsimp only
  split_ifs <;> omega

section

variable {numerator denominator : Nat}

theorem roundQuotient_pos (hdenominator : 0 < denominator) (h : denominator ≤ numerator) :
    0 < roundQuotient numerator denominator :=
  Nat.lt_of_lt_of_le (Nat.div_pos h hdenominator) (div_le_roundQuotient numerator denominator)

/-- A ratio of at least one is at least two to the power that its rounding starts from. -/
theorem scaled_le_of_le (hdenominator : 0 < denominator) (h : denominator ≤ numerator)
    {exponent : Int}
    (hexponent : exponent ≤ max 0 ((numerator.log2 : Int) - denominator.log2 - 1)) :
    denominator * Nat.pow 2 exponent.toNat ≤ numerator * Nat.pow 2 (-exponent).toNat := by
  rcases Int.le_total exponent 0 with hneg | hpos
  · rw [Int.toNat_of_nonpos hneg]
    exact Nat.mul_le_mul h (Nat.two_pow_pos _)
  · have hlog : denominator.log2 + 1 + exponent.toNat ≤ numerator.log2 ∨ exponent.toNat = 0 := by
      omega
    rw [Int.toNat_of_nonpos (Int.neg_nonpos_of_nonneg hpos)]
    rcases hlog with hlog | hzero
    · calc denominator * Nat.pow 2 exponent.toNat
          ≤ 2 ^ (denominator.log2 + 1) * 2 ^ exponent.toNat :=
            Nat.mul_le_mul_right _ Nat.lt_log2_self.le
        _ = 2 ^ (denominator.log2 + 1 + exponent.toNat) := (Nat.pow_add _ _ _).symm
        _ ≤ 2 ^ numerator.log2 := Nat.pow_le_pow_right (by decide) hlog
        _ ≤ numerator := Nat.log2_self_le (by omega)
        _ = numerator * Nat.pow 2 0 := (Nat.mul_one _).symm
    · rw [hzero]
      exact Nat.mul_le_mul_right _ h

/-- **A ratio of at least one is not rounded to zero.** -/
theorem zero_lt_ofRatio (hdenominator : 0 < denominator) (h : denominator ≤ numerator) :
    0 < ofRatio false numerator denominator := by
  unfold ofRatio
  rw [if_neg (by omega)]
  dsimp only
  generalize hscale : (if (_ : Nat) < Nat.pow 2 52 then _ - 1 else _ : Int) = scale
  have hle : scale ≤ (numerator.log2 : Int) - denominator.log2 - 52 := by
    rw [← hscale]
    split_ifs <;> omega
  have hrounded : 0 < roundQuotient (numerator * Nat.pow 2 (-max leastExponent scale).toNat)
      (denominator * Nat.pow 2 (max leastExponent scale).toNat) := by
    refine roundQuotient_pos (Nat.mul_pos hdenominator (Nat.two_pow_pos _))
      (scaled_le_of_le hdenominator h ?_)
    unfold leastExponent
    omega
  generalize roundQuotient _ _ = mantissa at hrounded
  -- A mantissa that is carried to the next exponent is not zero either.
  have hcarried : 0 < (if mantissa = Nat.pow 2 53 then (Nat.pow 2 52, max leastExponent scale + 1)
      else (mantissa, max leastExponent scale) : Nat × Int).1 := by
    split_ifs
    · exact Nat.two_pow_pos 52
    · exact hrounded
  generalize (if mantissa = _ then _ else _ : Nat × Int) = carried at hcarried
  split_ifs with hlarge hzero
  · exact zero_lt_infinite
  · exact absurd hzero hcarried.ne'
  · exact zero_lt_finite hcarried _

end

/-! ## Integers -/

variable {i : Int} {x : Binary64}

theorem zero_lt_ofInt? (hi : 0 < i) (h : ofInt? i = some x) : 0 < x := by
  have hpos : 0 < ofRatio (i < 0) i.natAbs 1 := by
    rw [decide_eq_false (Int.not_lt.mpr hi.le)]
    exact zero_lt_ofRatio Nat.one_pos (by omega)
  unfold ofInt? at h
  split at h
  · cases h
  · cases h
    exact hpos

theorem zero_le_ofInt? (hi : 0 ≤ i) (h : ofInt? i = some x) : 0 ≤ x := by
  rcases Int.lt_or_eq_of_le hi with hpos | rfl
  · exact Or.inl (zero_lt_ofInt? hpos h)
  · cases h
    decide

end Diagnostics.Binary64
