import Diagnostics.Proofs.Text.Names
import Diagnostics.Report

/-!
# Reports that have no octets

A text has octets unless it holds a surrogate (`Text.Utf8.exists_encode_iff`), and writing a JSON
value neither makes a surrogate nor loses one (`Json.hasSurrogate_write`): the writer escapes
controls and quotes alone. So whether a report can be written down is a matter of the texts that
stand in it, the names of its groups, the paths of its artifacts and what its failures say
(`RunReport.exists_encode_document_iff`).
-/

set_option autoImplicit false

namespace Diagnostics

/-! ## Texts -/

namespace Text

/-- A text holds half of a surrogate pair. -/
def HasSurrogate (s : Text) : Prop :=
  ∃ c ∈ s, c.isSurrogate = true

@[simp] theorem not_hasSurrogate_nil : ¬ HasSurrogate [] := by
  simp [HasSurrogate]

@[simp] theorem hasSurrogate_cons {c : CodePoint} {s : Text} :
    HasSurrogate (c :: s) ↔ c.isSurrogate = true ∨ s.HasSurrogate := by
  simp [HasSurrogate]

@[simp] theorem hasSurrogate_append {s t : Text} :
    HasSurrogate (s ++ t) ↔ s.HasSurrogate ∨ t.HasSurrogate := by
  simp [HasSurrogate, or_and_right, exists_or]

theorem hasSurrogate_flatMap {f : CodePoint → Text} {s : Text} :
    HasSurrogate (s.flatMap f) ↔ ∃ c ∈ s, (f c).HasSurrogate := by
  induction s with
  | nil => simp
  | cons c s ih => simp [ih]

@[simp] theorem not_hasSurrogate_ofChars (cs : List Char) : ¬ HasSurrogate (ofChars cs) := by
  simp [HasSurrogate, ofChars]

@[simp] theorem not_hasSurrogate_ofString (s : String) : ¬ HasSurrogate (ofString s) :=
  not_hasSurrogate_ofChars s.toList

namespace Utf8

/-- A text has octets unless it holds a surrogate. -/
theorem exists_encode_iff {s : Text} : (∃ octets, encode s = .ok octets) ↔ ¬ s.HasSurrogate := by
  have hall : firstError? isEncodable 0 s = none ↔ ¬ s.HasSurrogate := by
    rw [firstError?_eq_none_iff]
    simp [HasSurrogate, isEncodable]
  rw [← hall]
  unfold encode
  cases firstError? isEncodable 0 s with
  | none => simp
  | some e => simp

end Utf8

end Text

/-! ## Values -/

namespace Json

/-- One of the texts of a value, its field names included, holds a surrogate. -/
inductive HasSurrogate : Json → Prop
  | text {s : Text} : s.HasSurrogate → HasSurrogate (.text s)
  | item {v : Json} {items : List Json} : v ∈ items → HasSurrogate v → HasSurrogate (.array items)
  | name {f : Text × Json} {fields : List (Text × Json)} :
      f ∈ fields → f.1.HasSurrogate → HasSurrogate (.object fields)
  | field {f : Text × Json} {fields : List (Text × Json)} :
      f ∈ fields → HasSurrogate f.2 → HasSurrogate (.object fields)

@[simp] theorem hasSurrogate_text {s : Text} : HasSurrogate (.text s) ↔ s.HasSurrogate :=
  ⟨fun h => by cases h; assumption, .text⟩

@[simp] theorem hasSurrogate_array {items : List Json} :
    HasSurrogate (.array items) ↔ ∃ v ∈ items, v.HasSurrogate := by
  constructor
  · intro h
    cases h with
    | item hmem hv => exact ⟨_, hmem, hv⟩
  · rintro ⟨v, hmem, hv⟩
    exact .item hmem hv

@[simp] theorem hasSurrogate_object {fields : List (Text × Json)} :
    HasSurrogate (.object fields) ↔ ∃ f ∈ fields, f.1.HasSurrogate ∨ f.2.HasSurrogate := by
  constructor
  · intro h
    cases h with
    | name hmem hname => exact ⟨_, hmem, Or.inl hname⟩
    | field hmem hvalue => exact ⟨_, hmem, Or.inr hvalue⟩
  · rintro ⟨f, hmem, hname | hvalue⟩
    · exact .name hmem hname
    · exact .field hmem hvalue

@[simp] theorem not_hasSurrogate_newLine (depth : Nat) : ¬ (newLine depth).HasSurrogate := by
  simp [newLine, Text.HasSurrogate]

@[simp] theorem not_hasSurrogate_writeNumber (x : Binary64) : ¬ (writeNumber x).HasSurrogate := by
  unfold writeNumber
  split
  · apply Text.not_hasSurrogate_ofString
  · split
    · apply Text.not_hasSurrogate_ofString
    · apply Text.not_hasSurrogate_ofString
  · apply Text.not_hasSurrogate_ofString

/-- No escape is spelled with a surrogate, and no surrogate is escaped. -/
theorem hasSurrogate_escapeCodePoint {c : CodePoint} :
    (escapeCodePoint c).HasSurrogate ↔ c.isSurrogate = true := by
  by_cases hc : c.isSurrogate = true
  · -- A surrogate is no character and no control, so it stands for itself.
    have hchar : ∀ x : Char, c ≠ CodePoint.ofChar x := by
      rintro x rfl
      simp at hc
    have hcontrol : ¬ c.value < 0x20 := by
      rw [CodePoint.isSurrogate_iff] at hc
      omega
    simp [escapeCodePoint, hchar, hcontrol]
  · unfold escapeCodePoint
    split_ifs
    all_goals simp [hc]

@[simp] theorem hasSurrogate_writeText {s : Text} :
    (writeText s).HasSurrogate ↔ s.HasSurrogate := by
  unfold writeText
  simp only [Text.hasSurrogate_append, Text.not_hasSurrogate_ofString, false_or, or_false,
    Text.hasSurrogate_flatMap, hasSurrogate_escapeCodePoint]
  exact Iff.rfl

mutual

theorem hasSurrogate_writeValue (depth : Nat) :
    ∀ v : Json, (writeValue depth v).HasSurrogate ↔ v.HasSurrogate
  | .null => by
    have h : ¬ HasSurrogate .null := nofun
    simp [writeValue, h]
  | .bool b => by
    have h : ¬ HasSurrogate (.bool b) := nofun
    cases b <;> simp [writeValue, h]
  | .integer i => by
    have h : ¬ HasSurrogate (.integer i) := nofun
    simp [writeValue, h]
  | .number x => by
    have h : ¬ HasSurrogate (.number x) := nofun
    simp [writeValue, h]
  | .text s => by simp [writeValue]
  | .array [] => by simp [writeValue]
  | .array (v :: vs) => by
    rw [hasSurrogate_array, ← hasSurrogate_writeItems (depth + 1) (v :: vs)]
    simp [writeValue]
  | .object [] => by simp [writeValue]
  | .object (f :: fs) => by
    rw [hasSurrogate_object, ← hasSurrogate_writeFields (depth + 1) (f :: fs)]
    simp [writeValue]

theorem hasSurrogate_writeItems (depth : Nat) :
    ∀ vs : List Json, (writeItems depth vs).HasSurrogate ↔ ∃ v ∈ vs, v.HasSurrogate
  | [] => by simp [writeItems]
  | [v] => by simp [writeItems, hasSurrogate_writeValue depth v]
  | v :: w :: vs => by
    rw [List.exists_mem_cons_iff, ← hasSurrogate_writeItems depth (w :: vs),
      ← hasSurrogate_writeValue depth v]
    simp [writeItems]

theorem hasSurrogate_writeFields (depth : Nat) :
    ∀ fs : List (Text × Json), (writeFields depth fs).HasSurrogate ↔
      ∃ f ∈ fs, f.1.HasSurrogate ∨ f.2.HasSurrogate
  | [] => by simp [writeFields]
  | [(n, v)] => by simp [writeFields, hasSurrogate_writeValue depth v]
  | (n, v) :: f :: fs => by
    rw [List.exists_mem_cons_iff, ← hasSurrogate_writeFields depth (f :: fs),
      ← hasSurrogate_writeValue depth v]
    simp [writeFields, or_assoc]

end

/-- **Writing keeps surrogates as they are.** The written form of a value holds one exactly if one
of the value's texts does. -/
theorem hasSurrogate_write {v : Json} : v.write.HasSurrogate ↔ v.HasSurrogate :=
  hasSurrogate_writeValue 0 v

end Json

/-! ## Reports -/

def GroupResult.HasSurrogate (result : GroupResult) : Prop :=
  result.name.HasSurrogate ∨ ∃ path ∈ result.artifacts, path.text.HasSurrogate

def Failure.HasSurrogate (failure : Failure) : Prop :=
  failure.group.HasSurrogate ∨ failure.message.HasSurrogate ∨ failure.source.HasSurrogate

namespace RunReport

/-- One of the texts that a report tells holds a surrogate. -/
def HasSurrogate (report : RunReport) : Prop :=
  (∃ failure ∈ report.failures, failure.HasSurrogate) ∨
    ∃ result ∈ report.groups, result.HasSurrogate

theorem hasSurrogate_document {report : RunReport} :
    report.document.HasSurrogate ↔ report.HasSurrogate := by
  have hresult : ∀ result : GroupResult, result.toJson.HasSurrogate ↔ result.HasSurrogate := by
    intro result
    simp [GroupResult.toJson, GroupResult.HasSurrogate, or_comm]
  have hfailure : ∀ failure : Failure, failure.toJson.HasSurrogate ↔ failure.HasSurrogate := by
    intro failure
    simp [Failure.toJson, Failure.HasSurrogate]
  simp [document, HasSurrogate, sortedFailures, sortedGroups, hresult, hfailure]

/-- A report has octets unless one of the texts that it tells holds a surrogate. -/
theorem exists_encode_document_iff {report : RunReport} :
    (∃ octets, Text.Utf8.encode report.document.write = .ok octets) ↔ ¬ report.HasSurrogate := by
  rw [Text.Utf8.exists_encode_iff, Json.hasSurrogate_write, hasSurrogate_document]

end RunReport

end Diagnostics
