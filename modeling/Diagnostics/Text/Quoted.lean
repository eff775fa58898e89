import Diagnostics.Text.Printable

/-!
# Quoted texts

Messages show a name or a path between quotes, so that blanks at its ends and code points without
a picture can be seen. The quote is an apostrophe unless the text holds an apostrophe and no double
quote. Inside, the quote and the backslash follow a backslash, the three common controls have
letters, and everything else that is not printable is its code point in two, four or eight
hexadecimal digits. So a quoted text never holds a surrogate.
-/

set_option autoImplicit false

namespace Diagnostics.Text

def hexDigit (n : Nat) : Char :=
  Char.ofNat (if n < 10 then 0x30 + n else 0x57 + n)

/-- A number in a fixed count of hexadecimal digits; higher digits are dropped. -/
def hexDigits : (count : Nat) → Nat → List Char
  | 0, _ => []
  | count + 1, n => hexDigits count (n / 16) ++ [hexDigit (n % 16)]

/-- A code point in hexadecimal digits, after a backslash and the letter for their count. -/
def hexEscape (n : Nat) : List Char :=
  if n < 0x100 then '\\' :: 'x' :: hexDigits 2 n
  else if n < 0x10000 then '\\' :: 'u' :: hexDigits 4 n
  else '\\' :: 'U' :: hexDigits 8 n

/-- How one code point stands between two quotes. -/
def quoteCodePoint (delimiter c : CodePoint) : Text :=
  if c = delimiter ∨ c = '\\' then ['\\', c]
  else if c = '\n' then "\\n"
  else if c = '\r' then "\\r"
  else if c = '\t' then "\\t"
  else if isPrintable c then [c]
  else ofChars (hexEscape c.value)

/-- The quote that a text is put between. -/
def delimiter (s : Text) : CodePoint :=
  if s.contains '\'' && !s.contains '"' then '"' else '\''

def quoted (s : Text) : Text :=
  delimiter s :: s.flatMap (quoteCodePoint (delimiter s)) ++ [delimiter s]

example : quoted "it's" = ("\"it's\"" : Text) := by decide
example : quoted "a\\b\n" = ("'a\\\\b\\n'" : Text) := by decide
example : quoted [CodePoint.ofNat 0x1F] = ("'\\x1f'" : Text) := by decide

end Diagnostics.Text
