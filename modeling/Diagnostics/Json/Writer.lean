import Diagnostics.Json.Value
import Diagnostics.Number.Shortest
import Diagnostics.Text.Quoted

/-!
# Writing JSON

Documents are written for people as well: two spaces for each level, one item or field a line, an
empty array or object closed at once. Inside a text only the quote, the backslash and the controls
below the space are escaped; every other code point stands for itself, a surrogate included. Fields
are written in the order they have.
-/

set_option autoImplicit false

namespace Diagnostics.Json

open Diagnostics.Text

/-- How one code point stands in a written text. -/
def escapeCodePoint (c : CodePoint) : Text :=
  if c = '"' then "\\\""
  else if c = '\\' then "\\\\"
  else if c = '\n' then "\\n"
  else if c = '\r' then "\\r"
  else if c = '\t' then "\\t"
  else if c = '\x08' then "\\b"
  else if c = '\x0c' then "\\f"
  else if c.value < 0x20 then '\\' :: 'u' :: ofChars (hexDigits 4 c.value)
  else [c]

def writeText (s : Text) : Text :=
  "\"" ++ s.flatMap escapeCodePoint ++ "\""

/-- A number. What is no finite number has a name. -/
def writeNumber : Binary64 → Text
  | .nan => "NaN"
  | .infinite negative => if negative then "-Infinity" else "Infinity"
  | x => x.text

def newLine (depth : Nat) : Text :=
  '\n' :: List.replicate (2 * depth) (' ' : CodePoint)

mutual

/-- A value whose first line is at a depth. -/
def writeValue (depth : Nat) : Json → Text
  | .null => "null"
  | .bool b => if b then "true" else "false"
  | .integer i => toString i
  | .number x => writeNumber x
  | .text s => writeText s
  | .array [] => "[]"
  | .array (v :: vs) => "[" ++ writeItems (depth + 1) (v :: vs) ++ newLine depth ++ "]"
  | .object [] => "\x7b\x7d"
  | .object (f :: fs) => "\x7b" ++ writeFields (depth + 1) (f :: fs) ++ newLine depth ++ "\x7d"

def writeItems (depth : Nat) : List Json → Text
  | [] => []
  | [v] => newLine depth ++ writeValue depth v
  | v :: w :: vs => newLine depth ++ writeValue depth v ++ "," ++ writeItems depth (w :: vs)

def writeFields (depth : Nat) : List (Text × Json) → Text
  | [] => []
  | [(n, v)] => newLine depth ++ writeText n ++ ": " ++ writeValue depth v
  | (n, v) :: f :: fs =>
    newLine depth ++ writeText n ++ ": " ++ writeValue depth v ++
      "," ++ writeFields depth (f :: fs)

end

/-- The written form of a document; it does not end in a newline. -/
def write (v : Json) : Text :=
  writeValue 0 v

end Diagnostics.Json
