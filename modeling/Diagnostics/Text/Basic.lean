/-!
# Texts

The names, arguments and messages of a run are texts. A text is a list of code points, and unlike
the characters of a string its code points may be *surrogates*: a JSON document can spell half of a
surrogate pair by an escape, and names of files that are no UTF-8 are spelled with such halves too.
Whatever a catalog holds can therefore be told in a message; only when a text has to become octets
does it matter that a surrogate has none.

Texts are ordered by their code points. Characters and strings are texts without surrogates and
stand for them where a text is expected.
-/

set_option autoImplicit false

namespace Diagnostics

structure CodePoint where
  value : Nat
  value_lt : value < 0x110000
  deriving DecidableEq, Repr

abbrev Text := List CodePoint

namespace CodePoint

def ofChar (c : Char) : CodePoint where
  value := c.toNat
  value_lt := by
    have h : c.toNat.isValidChar := c.valid
    rcases h with h | ⟨_, h⟩ <;> omega

instance : Coe Char CodePoint := ⟨ofChar⟩

/-- The code point of a number; U+FFFD stands for a number that is too large. -/
def ofNat (n : Nat) : CodePoint :=
  if h : n < 0x110000 then ⟨n, h⟩ else ⟨0xFFFD, by decide⟩

/-- Whether a code point is half of a surrogate pair, which is no character. -/
def isSurrogate (c : CodePoint) : Bool :=
  0xD800 ≤ c.value && c.value ≤ 0xDFFF

def toChar? (c : CodePoint) : Option Char :=
  if c.isSurrogate then none else some (Char.ofNat c.value)

/-- An ASCII letter as a small letter; other code points stay as they are. -/
def toLower (c : CodePoint) : CodePoint :=
  if 0x41 ≤ c.value ∧ c.value ≤ 0x5A then ofNat (c.value + 0x20) else c

instance : LT CodePoint := ⟨fun a b => a.value < b.value⟩

instance : LE CodePoint := ⟨fun a b => a.value ≤ b.value⟩

instance (a b : CodePoint) : Decidable (a < b) :=
  inferInstanceAs (Decidable (a.value < b.value))

instance (a b : CodePoint) : Decidable (a ≤ b) :=
  inferInstanceAs (Decidable (a.value ≤ b.value))

theorem ofChar_inj {a b : Char} : ofChar a = ofChar b ↔ a = b := by
  constructor
  · intro h
    have h : a.toNat = b.toNat := congrArg value h
    exact Char.ext (UInt32.toNat_inj.mp h)
  · rintro rfl
    rfl

/-- The surrogates are the code points from U+D800 to U+DFFF. -/
theorem isSurrogate_iff (c : CodePoint) :
    c.isSurrogate = true ↔ 0xD800 ≤ c.value ∧ c.value ≤ 0xDFFF := by
  simp [isSurrogate]

@[simp] theorem isSurrogate_ofChar (c : Char) : (ofChar c).isSurrogate = false := by
  have h : c.toNat.isValidChar := c.valid
  rw [Bool.eq_false_iff, Ne, isSurrogate_iff]
  show ¬ (0xD800 ≤ c.toNat ∧ c.toNat ≤ 0xDFFF)
  rcases h with h | ⟨h, _⟩ <;> omega

end CodePoint

namespace Text

def ofChars (cs : List Char) : Text :=
  cs.map CodePoint.ofChar

def ofString (s : String) : Text :=
  ofChars s.toList

instance : Coe (List Char) Text := ⟨ofChars⟩

instance : Coe String Text := ⟨ofString⟩

instance : LawfulBEq Text := inferInstance

/-- The string that shows a text, with U+FFFD in the place of every surrogate. -/
def shown (s : Text) : String :=
  String.ofList (s.map fun c => c.toChar?.getD (Char.ofNat 0xFFFD))

def join (separator : Text) (parts : List Text) : Text :=
  List.intercalate separator parts

/-- A list without the longest pieces at both ends that hold nothing but what is left out. -/
def trimBy {α : Type} (leftOut : α → Bool) (s : List α) : List α :=
  ((s.dropWhile leftOut).reverse.dropWhile leftOut).reverse

/-- Puts an item in front of the first piece. -/
def consPiece {α : Type} (a : α) : List (List α) → List (List α)
  | [] => [[a]]
  | piece :: pieces => (a :: piece) :: pieces

/-- The pieces of a list between its separators. -/
def splitAtEach {α : Type} (isSeparator : α → Bool) : List α → List (List α)
  | [] => [[]]
  | a :: rest =>
    if isSeparator a then [] :: splitAtEach isSeparator rest
    else consPiece a (splitAtEach isSeparator rest)

end Text

end Diagnostics
