import Diagnostics.Text.Basic

/-!
# Control sequences of a terminal

A line that is printed may hold what a terminal would take as a command: the escape character, an
opening bracket, any number of parameters, any number of intermediates, and a final character. Such
sequences are left out of what is printed (`dropControlSequences`). A sequence that does not come to
its final character is no sequence, and stays.
-/

set_option autoImplicit false

namespace Diagnostics.Text

/-- The digits and the punctuation that parameters are written with. -/
def isParameter (c : CodePoint) : Bool :=
  0x30 ≤ c.value && c.value ≤ 0x3F

/-- What may stand between the parameters and the final character. -/
def isIntermediate (c : CodePoint) : Bool :=
  0x20 ≤ c.value && c.value ≤ 0x2F

def isFinal (c : CodePoint) : Bool :=
  0x40 ≤ c.value && c.value ≤ 0x7E

/-- How much of a text belongs to the control sequence that it begins with. -/
def sequenceLength? : Text → Option Nat
  | c :: d :: rest =>
    if c = '\x1b' ∧ d = '[' then
      let parameters := rest.takeWhile isParameter
      let behind := rest.drop parameters.length
      let intermediates := behind.takeWhile isIntermediate
      match behind.drop intermediates.length with
      | final :: _ =>
        if isFinal final then some (parameters.length + intermediates.length + 3) else none
      | [] => none
    else none
  | _ => none

/-- A text without the control sequences that begin behind its first so many code points, and
without these. -/
def dropSequencesFrom : (skip : Nat) → Text → Text
  | _, [] => []
  | skip + 1, _ :: cs => dropSequencesFrom skip cs
  | 0, c :: cs =>
    match sequenceLength? (c :: cs) with
    | some n => dropSequencesFrom (n - 1) cs
    | none => c :: dropSequencesFrom 0 cs

def dropControlSequences (s : Text) : Text :=
  dropSequencesFrom 0 s

example : dropControlSequences "a\x1b[1;31mb\x1b[0 q" = ("ab" : Text) := by decide +kernel
example : dropControlSequences "\x1b[1\x1b[m" = ("\x1b[1" : Text) := by decide +kernel

end Diagnostics.Text
