import Diagnostics.Number.Binary64
import Diagnostics.Text.Blank
import Diagnostics.Text.Digit

/-!
# Numerals in options and environment variables

A numeral may be written in the decimal digits of any script, may have single underscores between
digits, and may have blanks around it. So a text is first brought to plain form (`plainNumeral?`):
ASCII digits, no padding, no underscores. What is left is read by a small grammar: an optional sign
and digits for an integer; for a binary64 number a point and an exponent as well, or the name of
an infinity or of NaN in letters of either case.

The four separators U+001C to U+001F are blank elsewhere but are no padding of a numeral.
-/

set_option autoImplicit false

namespace Diagnostics.Numeral

open Diagnostics.Text

/-- Whether a code point may stand around a numeral. -/
def isPadding (c : CodePoint) : Bool :=
  isBlank c && !(0x1C ≤ c.value && c.value ≤ 0x1F)

/-- A decimal digit of any script as an ASCII digit; another character as itself. -/
def plainChar? (c : CodePoint) : Option Char :=
  match digitValue? c with
  | some v => some (Char.ofNat (0x30 + v))
  | none => c.toChar?

/-- Removes the underscores, each of which has to stand between two digits. -/
def dropUnderscores? (afterDigit : Bool) : List Char → Option (List Char)
  | [] => some []
  | '_' :: d :: cs =>
    if afterDigit && isAsciiDigit d then (dropUnderscores? true cs).map (d :: ·) else none
  | c :: cs => if c = '_' then none else (dropUnderscores? (isAsciiDigit c) cs).map (c :: ·)

def plainNumeral? (s : Text) : Option (List Char) := do
  let cs ← (trimBy isPadding s).mapM plainChar?
  dropUnderscores? false cs

/-- Splits off a sign; true is for minus. -/
def splitSign : List Char → Bool × List Char
  | '-' :: cs => (true, cs)
  | '+' :: cs => (false, cs)
  | cs => (false, cs)

def digitsValue (ds : List Char) : Nat :=
  ds.foldl (fun n d => 10 * n + (d.toNat - 0x30)) 0

def spanDigits (s : List Char) : List Char × List Char :=
  (s.takeWhile isAsciiDigit, s.dropWhile isAsciiDigit)

/-- How many digits of an integer are read. It is a guard against the time that reading takes. -/
def digitLimit : Nat := 4300

def tooManyDigitsMessage (count : Nat) : String :=
  s!"Exceeds the limit ({digitLimit} digits) for integer string conversion: value has {count} " ++
    "digits; use sys.set_int_max_str_digits() to increase the limit"

/-- The count of the digits that an integer begins with, if they are too many to be read. They are
counted once their underscores are in place, whatever follows them. -/
def excessDigits? (s : Text) : Option Nat := do
  let cs := (trimBy isPadding s).map fun c => (plainChar? c).getD '?'
  let leading := (splitSign cs).2.takeWhile fun c => isAsciiDigit c || c = '_'
  let digits ← dropUnderscores? false leading
  if digitLimit < digits.length then some digits.length else none

def integer? (s : Text) : Option Int := do
  let plain ← plainNumeral? s
  let (negative, body) := splitSign plain
  if body.isEmpty || !body.all isAsciiDigit then none
  else
    let n : Int := digitsValue body
    return if negative then -n else n

/-- An exponent part that is the whole rest of a numeral. -/
def exponent? : List Char → Option Int
  | [] => some 0
  | c :: cs =>
    if c = 'e' ∨ c = 'E' then
      let (negative, body) := splitSign cs
      if body.isEmpty || !body.all isAsciiDigit then none
      else
        let n : Int := digitsValue body
        some (if negative then -n else n)
    else none

/-- Digits with an optional point and exponent. -/
def decimal? (negative : Bool) (s : List Char) : Option Binary64 := do
  let (whole, rest) := spanDigits s
  let (fraction, rest) :=
    match rest with
    | '.' :: rest => spanDigits rest
    | rest => ([], rest)
  if whole.isEmpty && fraction.isEmpty then none
  else
    let exponent ← exponent? rest
    let digits := digitsValue (whole ++ fraction)
    return Binary64.ofDecimal negative digits (exponent - fraction.length)

/-- A numeral of a binary64 number. One too large is infinite. -/
def binary64? (s : Text) : Option Binary64 := do
  let plain ← plainNumeral? s
  let (negative, body) := splitSign plain
  let name := String.ofList (body.map Char.toLower)
  if name = "inf" ∨ name = "infinity" then return .infinite negative
  else if name = "nan" then return .nan
  else decimal? negative body

example : integer? " -1_000 " = some (-1000) := by decide +kernel
example : integer? "1__0" = none := by decide +kernel
example : binary64? "-Infinity" = some (.infinite true) := by decide +kernel
example : binary64? "1e" = none := by decide +kernel

end Diagnostics.Numeral
