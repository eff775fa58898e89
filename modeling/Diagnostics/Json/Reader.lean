import Diagnostics.Json.Value
import Diagnostics.Number.Numeral

/-!
# Reading JSON

The reader takes a text apart from the left. Every function returns the value it found together
with the characters that follow it; a refusal carries how many characters follow the place of the
fault, from which `read` computes line and column. An integer of more than `digitLimit` digits is
refused as well, but without a place.

Three leniencies go beyond the standard: the words `NaN`, `Infinity` and `-Infinity` are numbers, a
repeated field name is allowed, and an escape may spell half of a surrogate pair, which then is a
code point of its own in the text that was read.

Values nest, so the three functions `value`, `items` and `members` call each other and are bounded
by a count of steps. Each value costs at most two steps for each of its characters, and `read`
allows that many, so the bound is never what ends a reading. A limit on how deep values nest, for
the sake of the stack, is left out.
-/

set_option autoImplicit false

namespace Diagnostics.Json

open Diagnostics.Text Diagnostics.Numeral

inductive SyntaxFault where
  | expectingValue
  | expectingName
  | expectingColon
  | expectingComma
  | extraData
  | unterminatedText
  | controlCharacter
  | invalidEscape
  | invalidCodePoint
  | byteOrderMark
  deriving DecidableEq, Repr

def SyntaxFault.message : SyntaxFault → String
  | .expectingValue => "Expecting value"
  | .expectingName => "Expecting property name enclosed in double quotes"
  | .expectingColon => "Expecting ':' delimiter"
  | .expectingComma => "Expecting ',' delimiter"
  | .extraData => "Extra data"
  | .unterminatedText => "Unterminated string starting at"
  | .controlCharacter => "Invalid control character at"
  | .invalidEscape => "Invalid \\escape"
  | .invalidCodePoint => "Invalid \\uXXXX escape"
  | .byteOrderMark => "Unexpected UTF-8 BOM (decode using utf-8-sig)"

/-- Why a text is not read: a fault, and how many characters of the text are left at its place; or
an integer with more digits than are read, which has no place. -/
inductive Refusal where
  | malformed (fault : SyntaxFault) (remaining : Nat)
  | tooManyDigits (count : Nat)
  deriving DecidableEq, Repr

/-- A value and the characters after it, or a refusal. -/
abbrev Reading (α : Type) := Except Refusal (α × List Char)

def refuse {α : Type} (fault : SyntaxFault) (s : List Char) : Except Refusal α :=
  .error (.malformed fault s.length)

/-- The characters that may stand between the parts of a document. -/
def isSpace (c : Char) : Bool :=
  c = ' ' || c = '\t' || c = '\n' || c = '\r'

/-- The text from its first character that is not a space on. -/
def skipSpace (s : List Char) : List Char :=
  s.dropWhile isSpace

/-! ## Texts -/

def hexValue? (c : Char) : Option Nat :=
  let n := c.toNat
  if 0x30 ≤ n ∧ n ≤ 0x39 then some (n - 0x30)
  else if 0x41 ≤ n ∧ n ≤ 0x46 then some (n - 0x37)
  else if 0x61 ≤ n ∧ n ≤ 0x66 then some (n - 0x57)
  else none

def unit? (a b c d : Char) : Option Nat := do
  return (((← hexValue? a) * 16 + (← hexValue? b)) * 16 + (← hexValue? c)) * 16 + (← hexValue? d)

/-- The code point of a surrogate pair, if the two units are one. -/
def pair? (high low : Nat) : Option CodePoint :=
  if 0xD800 ≤ high ∧ high ≤ 0xDBFF ∧ 0xDC00 ≤ low ∧ low ≤ 0xDFFF then
    some (CodePoint.ofNat (0x10000 + (high - 0xD800) * 0x400 + (low - 0xDC00)))
  else none

/-- The character that a letter after a backslash stands for. -/
def escaped? : Char → Option Char
  | '"' => some '"'
  | '\\' => some '\\'
  | '/' => some '/'
  | 'b' => some '\x08'
  | 'f' => some '\x0c'
  | 'n' => some '\n'
  | 'r' => some '\r'
  | 't' => some '\t'
  | _ => none

/-- The unit that a second escape of four digits gives, if the text begins with such an escape and
goes on after it; inside, nothing if its digits are not hexadecimal. -/
def secondUnit? : List Char → Option (Option Nat)
  | '\\' :: 'u' :: a :: b :: c :: d :: _ :: _ => some (unit? a b c d)
  | _ => none

/-- The code point that an escape stands for and how many characters it takes, given the text after
its backslash. Two escapes that are a surrogate pair are one code point. -/
def escape (opening : Nat) : List Char → Except Refusal (CodePoint × Nat)
  | [] => .error (.malformed .unterminatedText opening)
  | 'u' :: a :: b :: c :: d :: e :: rest =>
    match unit? a b c d with
    | none => .error (.malformed .invalidCodePoint (rest.length + 6))
    | some n =>
      if 0xD800 ≤ n ∧ n ≤ 0xDBFF then
        match secondUnit? (e :: rest) with
        | none => .ok (CodePoint.ofNat n, 5)
        | some none => .error (.malformed .invalidCodePoint rest.length)
        | some (some m) =>
          match pair? n m with
          | some p => .ok (p, 11)
          | none => .ok (CodePoint.ofNat n, 5)
      else .ok (CodePoint.ofNat n, 5)
  | c :: rest =>
    if c = 'u' then .error (.malformed .invalidCodePoint (rest.length + 1))
    else
      match escaped? c with
      | some x => .ok (x, 1)
      | none => .error (.malformed .invalidEscape (rest.length + 2))

/-- Puts a code point in front of a text that was read. -/
def prepend (c : CodePoint) : Reading Text → Reading Text
  | .ok (cs, rest) => .ok (c :: cs, rest)
  | .error e => .error e

/-- A text, from the character after its opening quote to its closing quote. `opening` is the
place of the opening quote, to which an unterminated text is put down; the counter says how many
characters still belong to the escape read last. -/
def textBody (opening : Nat) : (skip : Nat) → List Char → Reading Text
  | _, [] => .error (.malformed .unterminatedText opening)
  | skip + 1, _ :: rest => textBody opening skip rest
  | 0, c :: rest =>
    if c = '"' then .ok ([], rest)
    else if c = '\\' then
      match escape opening rest with
      | .error e => .error e
      | .ok (x, length) => prepend x (textBody opening length rest)
    else if c.toNat ≤ 0x1F then .error (.malformed .controlCharacter (rest.length + 1))
    else prepend c (textBody opening 0 rest)

/-! ## Numbers -/

/-- Splits off an exponent part, if the text begins with a complete one. -/
def exponentPart? : List Char → Option (Int × List Char)
  | [] => none
  | c :: cs =>
    if c = 'e' ∨ c = 'E' then
      let (negative, body) := splitSign cs
      let (digits, rest) := spanDigits body
      if digits.isEmpty then none
      else
        let n : Int := digitsValue digits
        some (if negative then -n else n, rest)
    else none

/-- Splits off a point and the digits after it, if the text begins with them. -/
def fractionPart? : List Char → Option (List Char × List Char)
  | '.' :: cs =>
    let (digits, rest) := spanDigits cs
    if digits.isEmpty then none else some (digits, rest)
  | _ => none

/-- The whole part of a number: no zero stands in front of another digit. -/
def wholePart? : List Char → Option (List Char × List Char)
  | [] => none
  | '0' :: cs => some (['0'], cs)
  | cs =>
    let (digits, rest) := spanDigits cs
    if digits.isEmpty then none else some (digits, rest)

/-- A number. One without fraction and exponent is an integer, and only so many digits of one are
read. -/
def numeral (s : List Char) : Reading Json :=
  let (negative, body) :=
    match s with
    | '-' :: cs => (true, cs)
    | cs => (false, cs)
  match wholePart? body with
  | none => refuse .expectingValue s
  | some (whole, rest) =>
    let fraction := fractionPart? rest
    let (fractionDigits, rest) := fraction.getD ([], rest)
    let exponent := exponentPart? rest
    let (power, rest) := exponent.getD (0, rest)
    if fraction.isNone && exponent.isNone then
      if digitLimit < whole.length then .error (.tooManyDigits whole.length)
      else
        let n : Int := digitsValue whole
        .ok (.integer (if negative then -n else n), rest)
    else
      let x := Binary64.ofDecimal negative (digitsValue (whole ++ fractionDigits))
        (power - fractionDigits.length)
      .ok (.number x, rest)

/-! ## Values -/

mutual

def value : (steps : Nat) → List Char → Except Refusal (Json × List Char)
  | 0, s => refuse .expectingValue s
  | steps + 1, s =>
    match s with
    | '"' :: rest => do
      let (t, rest) ← textBody s.length 0 rest
      return (.text t, rest)
    | '{' :: rest => do
      match skipSpace rest with
      | '}' :: rest => return (.object [], rest)
      | rest =>
        let (fields, rest) ← members steps rest
        return (.object fields, rest)
    | '[' :: rest => do
      match skipSpace rest with
      | ']' :: rest => return (.array [], rest)
      | rest =>
        let (values, rest) ← items steps rest
        return (.array values, rest)
    | 'n' :: 'u' :: 'l' :: 'l' :: rest => return (.null, rest)
    | 't' :: 'r' :: 'u' :: 'e' :: rest => return (.bool true, rest)
    | 'f' :: 'a' :: 'l' :: 's' :: 'e' :: rest => return (.bool false, rest)
    | 'N' :: 'a' :: 'N' :: rest => return (.number .nan, rest)
    | 'I' :: 'n' :: 'f' :: 'i' :: 'n' :: 'i' :: 't' :: 'y' :: rest =>
      return (.number (.infinite false), rest)
    | '-' :: 'I' :: 'n' :: 'f' :: 'i' :: 'n' :: 'i' :: 't' :: 'y' :: rest =>
      return (.number (.infinite true), rest)
    | s => numeral s

/-- The items of an array that is not empty, to its closing bracket. -/
def items : (steps : Nat) → List Char → Except Refusal (List Json × List Char)
  | 0, s => refuse .expectingValue s
  | steps + 1, s => do
    let (v, rest) ← value steps s
    match skipSpace rest with
    | ']' :: rest => return ([v], rest)
    | ',' :: rest =>
      let (vs, rest) ← items steps (skipSpace rest)
      return (v :: vs, rest)
    | rest => refuse .expectingComma rest

/-- The fields of an object that is not empty, to its closing brace. -/
def members : (steps : Nat) → List Char → Except Refusal (List (Text × Json) × List Char)
  | 0, s => refuse .expectingValue s
  | steps + 1, s =>
    match s with
    | '"' :: rest => do
      let (name, rest) ← textBody s.length 0 rest
      match skipSpace rest with
      | ':' :: rest =>
        let (v, rest) ← value steps (skipSpace rest)
        match skipSpace rest with
        | '}' :: rest => return ([(name, v)], rest)
        | ',' :: rest =>
          let (fields, rest) ← members steps (skipSpace rest)
          return ((name, v) :: fields, rest)
        | rest => refuse .expectingComma rest
      | rest => refuse .expectingColon rest
    | s => refuse .expectingName s

end

/-- One value, with spaces around it and nothing else. -/
def document (s : List Char) : Except Refusal Json :=
  match s with
  | '\uFEFF' :: _ => refuse .byteOrderMark s
  | s => do
    let (v, rest) ← value (2 * s.length + 1) (skipSpace s)
    match skipSpace rest with
    | [] => return v
    | rest => refuse .extraData rest

/-! ## The place of a fault -/

/-- A fault and its place: the line and column, counted from one, and the number of characters in
front of it. -/
structure SyntaxError where
  fault : SyntaxFault
  line : Nat
  column : Nat
  position : Nat
  deriving DecidableEq, Repr

def SyntaxError.message (e : SyntaxError) : String :=
  s!"{e.fault.message}: line {e.line} column {e.column} (char {e.position})"

/-- The place of a fault in a text of which so many characters are left there. -/
def SyntaxError.locate (fault : SyntaxFault) (s : List Char) (remaining : Nat) : SyntaxError :=
  let before := s.take (s.length - remaining)
  { fault := fault
    line := before.count '\n' + 1
    column := (before.reverse.takeWhile (· ≠ '\n')).length + 1
    position := before.length }

/-- Why a text has no value. -/
inductive ReadError where
  | malformed (error : SyntaxError)
  | tooManyDigits (count : Nat)
  deriving DecidableEq, Repr

def ReadError.message : ReadError → String
  | .malformed error => error.message
  | .tooManyDigits count => tooManyDigitsMessage count

/-- A refusal as it is told of the text that was refused. -/
def Refusal.toError (s : List Char) : Refusal → ReadError
  | .malformed fault remaining => .malformed (.locate fault s remaining)
  | .tooManyDigits count => .tooManyDigits count

def read (s : List Char) : Except ReadError Json :=
  (document s).mapError (·.toError s)

end Diagnostics.Json
