import Diagnostics.Text.Quoted

/-!
# UTF-8, one octet at a time

Encoding is a map over code points, as long as each of them has octets. Characters have; a surrogate
has none (`encode`), unless the text is the name of a file: there the surrogates U+DC80 to U+DCFF
stand for single octets (`encodeName`). The first run of surrogates without octets is what a refusal
tells.

Decoding is a machine that takes one octet at a time and keeps the bounds within which the next
octet has to lie; a lead octet sets them so that no overlong form, no surrogate and nothing above
U+10FFFF is ever begun. The machine does not stop at an ill-formed sequence: it reports it as an
event and goes on with the octet that ruled it out. So there is one reading (`events`) from which
the users take what they need: a strict reader refuses at the first ill-formed sequence, a lenient
one puts U+FFFD in the place of each, and a reader of file names (`decodeName`) puts a surrogate in
the place of each of its octets.
-/

set_option autoImplicit false

namespace Diagnostics.Text.Utf8

/-! ## Encoding -/

def octetsOf (n : Nat) : List UInt8 :=
  if n < 0x80 then [UInt8.ofNat n]
  else if n < 0x800 then [UInt8.ofNat (0xC0 + n / 64), UInt8.ofNat (0x80 + n % 64)]
  else if n < 0x10000 then
    [UInt8.ofNat (0xE0 + n / 4096), UInt8.ofNat (0x80 + n / 64 % 64), UInt8.ofNat (0x80 + n % 64)]
  else
    [UInt8.ofNat (0xF0 + n / 262144), UInt8.ofNat (0x80 + n / 4096 % 64),
      UInt8.ofNat (0x80 + n / 64 % 64), UInt8.ofNat (0x80 + n % 64)]

/-- Whether a surrogate stands for a single octet in the name of a file. -/
def standsForOctet (c : CodePoint) : Bool :=
  0xDC80 ≤ c.value && c.value ≤ 0xDCFF

/-- Whether a code point has octets in a text. -/
def isEncodable (c : CodePoint) : Bool :=
  !c.isSurrogate

/-- Whether a code point has octets in the name of a file. -/
def isNameEncodable (c : CodePoint) : Bool :=
  !c.isSurrogate || standsForOctet c

def nameOctetsOf (c : CodePoint) : List UInt8 :=
  if standsForOctet c then [UInt8.ofNat (c.value - 0xDC00)] else octetsOf c.value

/-- Why a text has no octets: from a position on, so many surrogates, the first of which has
none. -/
structure EncodeError where
  first : CodePoint
  start : Nat
  span : Nat
  deriving DecidableEq, Repr

/-- The first code point that is not encodable, with the surrogates that follow it. -/
def firstError? (encodable : CodePoint → Bool) (position : Nat) : Text → Option EncodeError
  | [] => none
  | c :: cs =>
    if encodable c then firstError? encodable (position + 1) cs
    else some ⟨c, position, 1 + (cs.takeWhile CodePoint.isSurrogate).length⟩

def encode (s : Text) : Except EncodeError (List UInt8) :=
  match firstError? isEncodable 0 s with
  | some e => .error e
  | none => .ok (s.flatMap fun c => octetsOf c.value)

/-- The octets of texts one after another, up to the first text that has none, and why it has
none. -/
def encodeUntil : List Text → List UInt8 × Option EncodeError
  | [] => ([], none)
  | s :: rest =>
    match encode s with
    | .error e => ([], some e)
    | .ok octets =>
      let (others, error) := encodeUntil rest
      (octets ++ others, error)

def encodeName (s : Text) : Except EncodeError (List UInt8) :=
  match firstError? isNameEncodable 0 s with
  | some e => .error e
  | none => .ok (s.flatMap nameOctetsOf)

def EncodeError.message (e : EncodeError) : String :=
  if e.span ≤ 1 then
    let shown := String.ofList (hexEscape e.first.value)
    s!"'utf-8' codec can't encode character '{shown}' in position {e.start}: " ++
      "surrogates not allowed"
  else
    let last := e.start + e.span - 1
    s!"'utf-8' codec can't encode characters in position {e.start}-{last}: " ++
      "surrogates not allowed"

/-! ## Decoding -/

inductive Malformation where
  /-- No character begins with this octet. -/
  | startByte
  /-- The octet after the sequence does not continue it. -/
  | continuationByte
  /-- The octets end inside a character. -/
  | unexpectedEnd
  deriving DecidableEq, Repr

/-- What the machine makes of the octets: a character, or an ill-formed sequence of so many octets
from such a position on. -/
inductive Event where
  | char (c : Char)
  | malformed (start span : Nat) (why : Malformation)
  deriving DecidableEq, Repr

/-- Where the machine stands: between two characters, or inside one. Inside, it remembers how many
octets are still owed, the bits read so far, the bounds of the next octet, and where the character
began. -/
inductive State where
  | between
  | within (owed bits low high start span : Nat)
  deriving DecidableEq, Repr

/-- An octet that should begin a character. -/
def begin (position : Nat) (octet : UInt8) : List Event × State :=
  let b := octet.toNat
  if b < 0x80 then ([.char (Char.ofNat b)], .between)
  else if b < 0xC2 then ([.malformed position 1 .startByte], .between)
  else if b < 0xE0 then ([], .within 1 (b - 0xC0) 0x80 0xBF position 1)
  else if b < 0xF0 then
    let low := if b = 0xE0 then 0xA0 else 0x80
    let high := if b = 0xED then 0x9F else 0xBF
    ([], .within 2 (b - 0xE0) low high position 1)
  else if b < 0xF5 then
    let low := if b = 0xF0 then 0x90 else 0x80
    let high := if b = 0xF4 then 0x8F else 0xBF
    ([], .within 3 (b - 0xF0) low high position 1)
  else ([.malformed position 1 .startByte], .between)

/-- The machine takes the octet at a position. One that does not continue the character under way
ends it as ill-formed and begins the next. -/
def step (position : Nat) (octet : UInt8) : State → List Event × State
  | .between => begin position octet
  | .within owed bits low high start span =>
    let b := octet.toNat
    if low ≤ b ∧ b ≤ high then
      let bits := bits * 64 + (b - 0x80)
      if owed ≤ 1 then ([.char (Char.ofNat bits)], .between)
      else ([], .within (owed - 1) bits 0x80 0xBF start (span + 1))
    else
      let (events, state) := begin position octet
      (.malformed start span .continuationByte :: events, state)

def eventsFrom (position : Nat) : State → List UInt8 → List Event
  | .between, [] => []
  | .within _ _ _ _ start span, [] => [.malformed start span .unexpectedEnd]
  | state, b :: bs =>
    let (events, state) := step position b state
    events ++ eventsFrom (position + 1) state bs

def events (octets : List UInt8) : List Event :=
  eventsFrom 0 .between octets

/-- The first ill-formed sequence of a strict reading. -/
structure DecodeError where
  octet : UInt8
  start : Nat
  span : Nat
  why : Malformation
  deriving DecidableEq, Repr

/-- The characters of a list of events, up to the first ill-formed sequence. -/
def strict (octets : List UInt8) : List Event → Except DecodeError (List Char)
  | [] => .ok []
  | .char c :: es => (strict octets es).map (c :: ·)
  | .malformed start span why :: _ => .error ⟨octets.getD start 0, start, span, why⟩

/-- A strict reading: every octet has to belong to a character. -/
def decode (octets : List UInt8) : Except DecodeError (List Char) :=
  strict octets (events octets)

/-- A lenient reading: each ill-formed sequence becomes one U+FFFD. -/
def decodeLossy (octets : List UInt8) : List Char :=
  (events octets).map fun
    | .char c => c
    | .malformed .. => Char.ofNat 0xFFFD

/-- The name of a file: each octet of an ill-formed sequence becomes the surrogate that stands for
it. -/
def decodeName (octets : List UInt8) : Text :=
  (events octets).flatMap fun
    | .char c => [(c : CodePoint)]
    | .malformed start span _ =>
      ((octets.drop start).take span).map fun b => CodePoint.ofNat (0xDC00 + b.toNat)

def DecodeError.message (e : DecodeError) : String :=
  let why :=
    match e.why with
    | .startByte => "invalid start byte"
    | .continuationByte => "invalid continuation byte"
    | .unexpectedEnd => "unexpected end of data"
  if e.span ≤ 1 then
    let octet := String.ofList (hexDigits 2 e.octet.toNat)
    s!"'utf-8' codec can't decode byte 0x{octet} in position {e.start}: {why}"
  else
    let last := e.start + e.span - 1
    s!"'utf-8' codec can't decode bytes in position {e.start}-{last}: {why}"

end Diagnostics.Text.Utf8
