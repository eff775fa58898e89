/-!
# Binary floating-point numbers, exactly

Durations are numbers of the IEEE 754 format binary64. They are read from texts, compared, and
written back, and never added; so a number is represented by what it *is*, a sign, an integer and
a power of two, and each operation is exact arithmetic on integers. Comparison and rounding can
then be computed and reasoned about like any other function on `Nat` and `Int`.

Rounding is to nearest, ties to the even mantissa (`ofRatio`). Everything that makes a number goes
through it, so a finite number is always in its one normal form: the mantissa has 53 binary digits,
or the exponent is the least one.
-/

set_option autoImplicit false

namespace Diagnostics

/-- A binary64 number. A finite one is the mantissa times two to the exponent, with a sign; zero
has a sign as well. -/
inductive Binary64 where
  | nan
  | infinite (negative : Bool)
  | finite (negative : Bool) (mantissa : Nat) (exponent : Int)
  deriving DecidableEq, Repr, Inhabited

namespace Binary64

def leastExponent : Int := -1074

def greatestExponent : Int := 971

def signedZero (negative : Bool) : Binary64 :=
  .finite negative 0 leastExponent

instance : OfNat Binary64 0 := ⟨signedZero false⟩

def isNaN : Binary64 → Bool
  | .nan => true
  | _ => false

/-! ## Order -/

/-- A finite number in units of two to a power that is not above its exponent. -/
def inUnits (negative : Bool) (mantissa : Nat) (exponent unit : Int) : Int :=
  (if negative then -1 else 1) * (mantissa : Int) * (Nat.pow 2 (exponent - unit).toNat : Nat)

/-- How two numbers compare; one that is not a number compares with nothing. The two zeros are
equal. -/
def compare? : Binary64 → Binary64 → Option Ordering
  | .nan, _ => none
  | _, .nan => none
  | .infinite a, .infinite b => some (compare b.toNat a.toNat)
  | .infinite a, .finite .. => some (if a then .lt else .gt)
  | .finite .., .infinite b => some (if b then .gt else .lt)
  | .finite s m e, .finite t n f =>
    let unit := min e f
    some (compare (inUnits s m e unit) (inUnits t n f unit))

instance : LT Binary64 := ⟨fun a b => compare? a b = some .lt⟩

instance : LE Binary64 := ⟨fun a b => compare? a b = some .lt ∨ compare? a b = some .eq⟩

instance (a b : Binary64) : Decidable (a < b) :=
  inferInstanceAs (Decidable (compare? a b = some .lt))

instance (a b : Binary64) : Decidable (a ≤ b) :=
  inferInstanceAs (Decidable (_ ∨ _))

/-! ## Rounding -/

/-- The quotient rounded to the nearest integer, a tie to the even one. -/
def roundQuotient (numerator denominator : Nat) : Nat :=
  let q := numerator / denominator
  let r := numerator % denominator
  if 2 * r < denominator then q
  else if denominator < 2 * r then q + 1
  else if q % 2 = 0 then q else q + 1

/-- The number nearest to a ratio of positive integers, with the given sign. The exponent is chosen
so that the rounded mantissa has 53 binary digits, unless it would be too small. A mantissa that
rounds up to the next power of two takes the next exponent. -/
def ofRatio (negative : Bool) (numerator denominator : Nat) : Binary64 :=
  if numerator = 0 then signedZero negative
  else
    let scale : Int := (numerator.log2 : Int) - denominator.log2 - 52
    let above := numerator * Nat.pow 2 (-scale).toNat
    let below := denominator * Nat.pow 2 scale.toNat
    let exponent := max leastExponent (if above / below < Nat.pow 2 52 then scale - 1 else scale)
    let mantissa :=
      roundQuotient (numerator * Nat.pow 2 (-exponent).toNat)
        (denominator * Nat.pow 2 exponent.toNat)
    let (mantissa, exponent) :=
      if mantissa = Nat.pow 2 53 then (Nat.pow 2 52, exponent + 1) else (mantissa, exponent)
    if greatestExponent < exponent then .infinite negative
    else if mantissa = 0 then signedZero negative
    else .finite negative mantissa exponent

/-- The number nearest to an integer; none when that would be infinite. -/
def ofInt? (i : Int) : Option Binary64 :=
  match ofRatio (i < 0) i.natAbs 1 with
  | .infinite _ => none
  | x => some x

/-- How many decimal digits an integer has; zero has none. -/
def digitCount (n : Nat) : Nat :=
  if n = 0 then 0 else (Nat.toDigits 10 n).length

/-- The number nearest to `digits · 10 ^ exponent`. Far outside the range the answer is known from
the place of the leading digit, so that no power is formed there. -/
def ofDecimal (negative : Bool) (digits : Nat) (exponent : Int) : Binary64 :=
  let place := digitCount digits + exponent
  if digits = 0 ∨ place < -330 then signedZero negative
  else if 330 < place then .infinite negative
  else ofRatio negative (digits * Nat.pow 10 exponent.toNat) (Nat.pow 10 (-exponent).toNat)

example : ofInt? 600 = some (.finite false (75 * 2 ^ 46) (-43)) := by decide +kernel

example : ofDecimal false 5 (-324) = .finite false 1 (-1074) := by decide +kernel

example : (Binary64.nan < 0) = False ∧ signedZero true ≤ 0 := by decide +kernel

end Binary64

end Diagnostics
