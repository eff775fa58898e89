import Diagnostics.Text.Utf8

/-!
# What is kept back of a text file

What is written to a text file is kept back twice before the disk sees it. Texts are collected until
they are a chunk, and are then handed over to a buffer of one block; the buffer is written when it
would overflow, and what is too large for it is written at once. Whatever is left is written when
the file is closed.

As long as the disk takes everything, this changes nothing. On a full device it decides which
refusal is told: a write that is refused loses what could not be handed over, and if something else
is still kept back then closing the file is refused as well, and that comes last.
-/

set_option autoImplicit false

namespace Diagnostics

/-- How many octets of a file are kept back: of texts, and in the buffer. -/
structure Backlog where
  texts : Nat
  buffer : Nat
  deriving DecidableEq, Repr

namespace Backlog

/-- So many octets of texts are not kept back any longer. -/
def chunkSize : Nat := 8192

/-- How many octets the buffer takes. -/
def blockSize : Nat := 4096

def empty : Backlog := ⟨0, 0⟩

/-- Hands texts over to the buffer of a file whose device is full. False if they do not fit. -/
def handOver (kept : Backlog) : Bool × Backlog :=
  if kept.texts + kept.buffer ≤ blockSize then (true, ⟨0, kept.texts + kept.buffer⟩)
  else (false, ⟨0, kept.buffer⟩)

/-- A text of so many octets is written to a file on a full device. A chunk is not collected with
what was written before it. -/
def write (kept : Backlog) (octets : Nat) : Bool × Backlog :=
  let (taken, kept) := if chunkSize ≤ octets then kept.handOver else (true, kept)
  if !taken then (false, kept)
  else
    let kept := { kept with texts := kept.texts + octets }
    if chunkSize ≤ kept.texts then kept.handOver else (true, kept)

/-- Texts are written one after another, up to the first that has no octets or is refused. False if
one was refused. -/
def writeAll (kept : Backlog) : List Text → Bool × Backlog
  | [] => (true, kept)
  | s :: rest =>
    match Text.Utf8.encode s with
    | .error _ => (true, kept)
    | .ok octets =>
      match kept.write octets.length with
      | (true, kept) => kept.writeAll rest
      | (false, kept) => (false, kept)

/-- Whether a write is refused on a full device and nothing is left that closing the file would be
refused for. -/
def refusesWrite (texts : List Text) : Bool :=
  let (taken, kept) := empty.writeAll texts
  !taken && kept = empty

end Backlog

end Diagnostics
