import Diagnostics.Proofs.Catalog.Overflow
import Diagnostics.Proofs.Disk.Reaching
import Diagnostics.Proofs.Text.Utf8

/-!
# What loading a catalog can come to

Loading a catalog returns groups or rejects it, **`load_settles_iff`**, unless something is wrong
that is not told as a complaint: the path has no octets, the file is no UTF-8, an integer of too many
digits is met before anything else is wrong with the text, or a number of seconds is too large and
nothing before it is wrong with the document.
-/

set_option autoImplicit false

namespace Diagnostics

namespace Catalog

/-- A reading rejects the catalog if it fails exactly when it returns something or rejects it. -/
theorem onlyRejects_iff {α : Type} {x : Except CatalogFault α} :
    OnlyRejects x ↔ (∃ a, x = .ok a) ∨ ∃ e, x = .error (.rejected e) := by
  cases x with
  | ok a => simp [OnlyRejects.ok]
  | error fault => simp [OnlyRejects]

theorem ofOctets_onlyRejects_iff {path : Path} {octets : List UInt8} :
    OnlyRejects (ofOctets path octets) ↔ ∃ cs, Text.Utf8.encode (Text.ofChars cs) = .ok octets ∧
      (∀ count, Json.read (Text.unifyNewlines cs) ≠ .error (.tooManyDigits count)) ∧
      ∀ document, Json.read (Text.unifyNewlines cs) = .ok document → ¬ Overflows document := by
  unfold ofOctets
  cases hdecode : Text.Utf8.decode octets with
  | error e =>
    have hnone : ∀ cs, Text.Utf8.encode (Text.ofChars cs) ≠ .ok octets := by
      intro cs hcs
      rw [Text.Utf8.decode_eq_ok_iff.mpr hcs] at hdecode
      cases hdecode
    simp [OnlyRejects, hnone]
  | ok cs =>
    have hcs := Text.Utf8.decode_eq_ok_iff.mp hdecode
    have hsame : ∀ {other}, Text.Utf8.encode (Text.ofChars other) = .ok octets → other = cs := by
      intro other hother
      rw [← Text.Utf8.decode_eq_ok_iff, hdecode] at hother
      exact (Except.ok.inj hother).symm
    dsimp only
    constructor
    · intro h
      refine ⟨cs, hcs, fun count hread => ?_, fun document hread => ?_⟩
      · rw [hread] at h
        obtain ⟨_, hok⟩ | ⟨_, hrejected⟩ := onlyRejects_iff.mp h
        · cases hok
        · cases hrejected
      · rw [hread] at h
        exact parse_onlyRejects_iff.mp h
    · rintro ⟨other, hother, hdigits, h⟩
      obtain rfl := hsame hother
      cases hread : Json.read (Text.unifyNewlines other) with
      | error e =>
        cases e with
        | malformed e => exact .rejected _
        | tooManyDigits count => exact absurd hread (hdigits count)
      | ok document => exact parse_onlyRejects_iff.mpr (h document hread)

/-- **When loading a catalog returns groups or rejects it.** The path has octets, and if there is a
file that can be read, then it is UTF-8, no integer of too many digits is the first fault of its
text, and no number of seconds that is too large is the first fault of the document that is in it,
if there is one. -/
theorem load_settles_iff {disk : Disk} {path : Path} :
    ((∃ groups, load disk path = .ok groups) ∨ ∃ e, load disk path = .error (.rejected e)) ↔
      path.HasOctets ∧ ∀ octets, disk.read path = .ok octets →
        ∃ cs, Text.Utf8.encode (Text.ofChars cs) = .ok octets ∧
          (∀ count, Json.read (Text.unifyNewlines cs) ≠ .error (.tooManyDigits count)) ∧
          ∀ document, Json.read (Text.unifyNewlines cs) = .ok document → ¬ Overflows document := by
  rw [← onlyRejects_iff]
  unfold load
  by_cases hoctets : path.HasOctets
  · simp only [hoctets, true_and]
    cases hread : disk.read path with
    | error e =>
      obtain ⟨fault, rfl⟩ := Disk.os_of_read hoctets hread
      simp [OnlyRejects.rejected]
    | ok octets => simp [ofOctets_onlyRejects_iff]
  · obtain ⟨e, hnot, hread⟩ := Disk.exists_read_of_not_hasOctets disk hoctets
    rw [hread]
    cases e with
    | os fault => exact absurd rfl (hnot fault)
    | unencodable e => simp [OnlyRejects, hoctets]
    | embeddedNul => simp [OnlyRejects, hoctets]

/-- A disk with one file, of the name `c`. -/
def holding (octets : List UInt8) : Disk :=
  ⟨.directory [([0x63], .file octets)], [], []⟩

/-- The octets of a text, as a file holds them. -/
def written (text : List Char) : List UInt8 :=
  text.flatMap fun c => Text.Utf8.octetsOf c.toNat

/-- The digits of a power of ten. -/
def powerOfTen (zeros : Nat) : List Char :=
  '1' :: List.replicate zeros '0'

/-- A power of ten is all of an integer, and is refused if it has too many digits. -/
theorem read_powerOfTen {zeros : Nat} (h : Numeral.digitLimit ≤ zeros) :
    Json.read (powerOfTen zeros) = .error (.tooManyDigits (zeros + 1)) := by
  have hspan : Numeral.spanDigits (powerOfTen zeros) = (powerOfTen zeros, []) := by
    simp [Numeral.spanDigits, powerOfTen, Text.isAsciiDigit]
  have hwhole : Json.wholePart? (powerOfTen zeros) = some (powerOfTen zeros, []) := by
    unfold powerOfTen at hspan ⊢
    simp [Json.wholePart?, hspan]
  have hnumeral : Json.numeral (powerOfTen zeros) = .error (.tooManyDigits (zeros + 1)) := by
    unfold powerOfTen at hwhole ⊢
    simp [Json.numeral, hwhole, Json.fractionPart?, Json.exponentPart?]
    omega
  have hvalue (steps : Nat) :
      Json.value (steps + 1) (powerOfTen zeros) = .error (.tooManyDigits (zeros + 1)) := by
    unfold powerOfTen at hnumeral ⊢
    simpa [Json.value] using hnumeral
  have hskip : Json.skipSpace (powerOfTen zeros) = powerOfTen zeros := rfl
  have hdocument : Json.document (powerOfTen zeros) = .error (.tooManyDigits (zeros + 1)) := by
    unfold Json.document
    split
    · rename_i rest hmark
      exact absurd (List.cons.inj hmark).1 (by decide)
    · rw [hskip, hvalue]
      rfl
  rw [Json.read, hdocument]
  rfl

/-- A file that holds an integer of too many digits is not rejected. -/
theorem load_powerOfTen {zeros : Nat} (h : Numeral.digitLimit ≤ zeros) :
    load (holding (written (powerOfTen zeros))) (Path.ofText "c") =
      .error (.tooManyDigits (zeros + 1)) := by
  have hload : load (holding (written (powerOfTen zeros))) (Path.ofText "c") =
      ofOctets (Path.ofText "c") (written (powerOfTen zeros)) := rfl
  have hdecode : Text.Utf8.decode (written (powerOfTen zeros)) = .ok (powerOfTen zeros) :=
    Text.Utf8.decode_eq_ok_iff.mpr (Text.Utf8.encode_ofChars _)
  have hreturn : '\r' ∉ powerOfTen zeros := by simp [powerOfTen]
  rw [hload, ofOctets, hdecode]
  dsimp only
  rw [Text.unifyNewlines_eq_self hreturn, read_powerOfTen h]

/-- A catalog of one program, whose limit is a power of ten. -/
def limited (zeros : Nat) : List Char :=
  "\x7b\"groups\":[\x7b\"name\":\"A\",\"tasks\":[\x7b\"type\":\"process\",".toList ++
    "\"executable\":\"e\",\"output\":\"o\",\"timeout_seconds\":".toList ++
    powerOfTen zeros ++ "\x7d]\x7d]\x7d".toList

/-- A limit of ten to the power 309 is told as a number that is too large, an integer of 4301 digits
as one of too many, and an octet that begins no character as a file that is no UTF-8: none of these
catalogs is read, and none is rejected. -/
theorem load_neither_reads_nor_rejects :
    load (holding (written (limited 309))) (Path.ofText "c") = .error .tooLarge ∧
      load (holding (written (powerOfTen 4300))) (Path.ofText "c") =
        .error (.tooManyDigits 4301) ∧
      load (holding [0xFF]) (Path.ofText "c") = .error (.notUtf8 ⟨0xFF, 0, 1, .startByte⟩) :=
  ⟨by decide +kernel, load_powerOfTen (Nat.le_refl _), by decide +kernel⟩

end Catalog

end Diagnostics
