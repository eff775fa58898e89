import Diagnostics.Number.Binary64

/-!
# The shortest decimal of a binary number

A finite number is written with the fewest digits that read back as the same number, and of the
decimals with that many digits the nearest. The decimals that read back are those between the two
midpoints to the neighbouring numbers, the midpoints included when the mantissa is even
(`Interval`). For one digit, two digits and so on, only the two neighbours of the number on the
grid of such decimals need to be looked at: if any point of a grid lies in the interval, one of
these two does.

Where the point stands and when an exponent is written is another matter, decided by a `Layout`.
-/

set_option autoImplicit false

namespace Diagnostics

/-- A decimal: `digits · 10 ^ exponent`. -/
structure Decimal where
  digits : Nat
  exponent : Int
  deriving DecidableEq, Repr

namespace Binary64

/-- The decimals that read back as a number, all three in quarters of its unit: the number, and
the midpoints below and above it. -/
structure Interval where
  low : Nat
  value : Nat
  high : Nat
  closed : Bool

/-- The interval of a mantissa. Just above a power of two the gap below is half as wide. -/
def interval (mantissa : Nat) (exponent : Int) : Interval :=
  let narrow := mantissa = Nat.pow 2 52 ∧ leastExponent < exponent
  { low := 4 * mantissa - (if narrow then 1 else 2)
    value := 4 * mantissa
    high := 4 * mantissa + 2
    closed := mantissa % 2 = 0 }

/-- Whether a ratio lies in the interval. -/
def Interval.holds (i : Interval) (numerator denominator : Nat) : Bool :=
  if i.closed then i.low * denominator ≤ numerator && numerator ≤ i.high * denominator
  else i.low * denominator < numerator && numerator < i.high * denominator

/-- The count of digits before the point: the least `k` with `numerator / denominator < 10 ^ k`. -/
def decimalPlace (numerator denominator : Nat) : Int :=
  let k : Int := (digitCount numerator : Int) - digitCount denominator
  if numerator * Nat.pow 10 (-k).toNat < denominator * Nat.pow 10 k.toNat then k else k + 1

/-- The point of the grid of multiples of `10 ^ grid` that reads back, if one of the neighbours
does: the nearer one if both do, the even one in a tie. -/
def onGrid? (i : Interval) (unit : Int) (grid : Int) : Option Decimal :=
  -- in quarters of the unit, a multiple `n` of the grid is the ratio `n * up / down`
  let up := Nat.pow 10 grid.toNat * Nat.pow 2 (-unit).toNat
  let down := Nat.pow 10 (-grid).toNat * Nat.pow 2 unit.toNat
  let floor := i.value * down / up
  let below := i.holds (floor * up) down
  let above := i.holds ((floor + 1) * up) down
  let twice := 2 * (i.value * down)
  let middle := (2 * floor + 1) * up
  if below && above then
    if twice < middle ∨ (twice = middle ∧ floor % 2 = 0) then some ⟨floor, grid⟩
    else some ⟨floor + 1, grid⟩
  else if below then some ⟨floor, grid⟩
  else if above then some ⟨floor + 1, grid⟩
  else none

/-- The first of so many grids, each ten times finer, that has a decimal. Seventeen digits are
enough for every number. -/
def firstGrid (i : Interval) (unit : Int) : (grids : Nat) → (grid : Int) → Decimal
  | 0, grid => ⟨i.value, grid⟩
  | grids + 1, grid =>
    match onGrid? i unit grid with
    | some d => d
    | none => firstGrid i unit grids (grid - 1)

def shortest (mantissa : Nat) (exponent : Int) : Decimal :=
  let i := interval mantissa exponent
  let unit := exponent - 2
  let place := decimalPlace (i.value * Nat.pow 2 unit.toNat) (Nat.pow 2 (-unit).toNat)
  firstGrid i unit 18 (place - 1)

/-! ## The written form -/

/-- How a decimal is laid out: the least and the first too large exponent of the leading digit for
which the point is written in place, and the least count of digits of a written exponent. -/
structure Layout where
  leastPositional : Int
  pastPositional : Int
  exponentDigits : Nat

/-- Durations are written with the point in place from a ten-thousandth on and below 10 ^ 16. -/
def durationLayout : Layout := ⟨-4, 16, 2⟩

/-- The digits of a number without the zeros at its end. -/
def significantDigits (n : Nat) : List Char :=
  ((Nat.toDigits 10 n).reverse.dropWhile (· = '0')).reverse

/-- A positive decimal in a layout. Positional forms keep a digit after the point. -/
def Layout.write (layout : Layout) (d : Decimal) : List Char :=
  let digits := significantDigits d.digits
  let count := digits.length
  let leading : Int := digitCount d.digits + d.exponent - 1
  if layout.leastPositional ≤ leading ∧ leading < layout.pastPositional then
    if leading < 0 then '0' :: '.' :: List.replicate (-leading - 1).toNat '0' ++ digits
    else
      let whole := leading.toNat + 1
      if count ≤ whole then digits ++ List.replicate (whole - count) '0' ++ ['.', '0']
      else digits.take whole ++ '.' :: digits.drop whole
  else
    let mark := if leading < 0 then '-' else '+'
    let power := Nat.toDigits 10 leading.natAbs
    let padding := List.replicate (layout.exponentDigits - power.length) '0'
    digits.take 1 ++ (if count ≤ 1 then [] else '.' :: digits.drop 1) ++
      'e' :: mark :: padding ++ power

/-- A number as messages and listings show it. -/
def text : Binary64 → String
  | .nan => "nan"
  | .infinite negative => if negative then "-inf" else "inf"
  | .finite negative mantissa exponent =>
    let body :=
      if mantissa = 0 then ['0', '.', '0']
      else durationLayout.write (shortest mantissa exponent)
    String.ofList (if negative then '-' :: body else body)

end Binary64

end Diagnostics
