import Diagnostics.Catalog.Load
import Diagnostics.Proofs.Disk.Takes
import Diagnostics.Proofs.Json.RoundTrip
import Diagnostics.Proofs.Report.Order

/-!
# Reading a report back

Wherever a report can be written, its file can be read again, and is read as the document that the
report was (`RunReport.write_round_trips`): the octets are those of the written document, which has
no carriage return that reading would change, and the reader takes it apart as the writer put it
together. That document tells each result and each failure once, in order
(`RunReport.tells_sorted`).
-/

set_option autoImplicit false

namespace Diagnostics

open Disk StableSort

/-! ## What documents are made of -/

theorem Json.IsPlain.array_map {α : Type} {list : List α} {f : α → Json}
    (h : ∀ a ∈ list, (f a).IsPlain) : Json.IsPlain (.array (list.map f)) := by
  apply Json.IsPlain.array
  intro v hv
  obtain ⟨a, ha, rfl⟩ := List.mem_map.mp hv
  exact h a ha

theorem Failure.isPlain_toJson {failure : Failure} (h : ¬ failure.HasSurrogate) :
    failure.toJson.IsPlain := by
  have hkind : Json.IsPlain (.text failure.kind.name) := .text (Text.not_hasSurrogate_ofString _)
  simp only [HasSurrogate, not_or] at h
  apply Json.IsPlain.object
  · simp [Text.not_hasSurrogate_ofString]
  · simp [hkind, Json.IsPlain.text, h]

theorem GroupResult.isPlain_toJson {result : GroupResult} (h : ¬ result.HasSurrogate) :
    result.toJson.IsPlain := by
  simp only [HasSurrogate, not_or, not_exists, not_and] at h
  have hartifacts : Json.IsPlain (.array (result.artifacts.map fun path => .text path.text)) :=
    .array_map fun path hpath => .text (h.2 path hpath)
  apply Json.IsPlain.object
  · simp [Text.not_hasSurrogate_ofString]
  · simp [hartifacts, Json.IsPlain.text, h.1]

namespace RunReport

variable {report : RunReport}

/-! ## What a document tells -/

/-- Results and failures are those of a report, in order; what has the same place in the order
stands as it stood in the report. -/
structure Tells (report : RunReport) (groups : List GroupResult) (failures : List Failure) :
    Prop where
  groups_perm : groups.Perm report.groups
  failures_perm : failures.Perm report.failures
  groups_sorted : groups.Pairwise fun a b => a.name ≤ b.name
  failures_sorted : failures.Pairwise fun a b => a.key ≤ b.key
  groups_ties : ∀ name,
    groups.filter (·.name = name) = report.groups.filter (·.name = name)
  failures_ties : ∀ key,
    failures.filter (·.key = key) = report.failures.filter (·.key = key)

theorem tells_sorted (report : RunReport) :
    report.Tells report.sortedGroups report.sortedFailures := by
  rw [sortedGroups_eq, sortedFailures_eq]
  exact {
    groups_perm := byKey_perm _
    failures_perm := byKey_perm _
    groups_sorted := pairwise_byKey _
    failures_sorted := pairwise_byKey _
    groups_ties := fun name => filter_byKey name _
    failures_ties := fun key => filter_byKey key _ }

/-- The document of a report that tells no surrogate is made of characters. -/
theorem isPlain_document (h : ¬ report.HasSurrogate) : report.document.IsPlain := by
  simp only [HasSurrogate, not_or, not_exists, not_and] at h
  have htold := report.tells_sorted
  have hfailures : Json.IsPlain (.array (report.sortedFailures.map Failure.toJson)) :=
    .array_map fun failure hmem =>
      Failure.isPlain_toJson (h.1 failure (htold.failures_perm.mem_iff.mp hmem))
  have hgroups : Json.IsPlain (.array (report.sortedGroups.map GroupResult.toJson)) :=
    .array_map fun result hmem =>
      GroupResult.isPlain_toJson (h.2 result (htold.groups_perm.mem_iff.mp hmem))
  apply Json.IsPlain.object
  · simp [Text.not_hasSurrogate_ofString]
  · simp [hfailures, hgroups]

/-! ## What is read back -/

/-- A report that tells no surrogate is written, and its octets read back, where a file takes
them. -/
theorem read_write {path : Path} {d : Disk} (hground : d.IsGrounded)
    (hmade : (d.ensureDirectories path.parent).1 = .ok ())
    (htakes : (d.ensureDirectories path.parent).2.Takes path) {octets : List UInt8}
    (hoctets : Text.Utf8.encode report.document.write = .ok octets) :
    (report.write path d).1 = .ok () ∧ (report.write path d).2.read path = .ok octets := by
  have hbegun : (d.ensureDirectories path.parent).2.IsGrounded :=
    (made_of_ensureDirectories hground _).isGrounded hground
  obtain ⟨place, d', content, hopened, hfile⟩ := (takes_iff_opened hbegun).mp htakes
  obtain ⟨htaken, hread⟩ := read_flushAt hbegun hopened hfile octets
  unfold write
  cases hparent : d.ensureDirectories path.parent with
  | mk made begun =>
    rw [hparent] at hmade hopened
    dsimp only at hmade hopened
    rw [hmade]
    dsimp only
    rw [hopened]
    dsimp only
    rw [hoctets]
    dsimp only
    rw [htaken]
    exact ⟨rfl, hread⟩

/-- **A report is read back from its file.** Wherever its directory can be made and a file takes
octets, a report that tells no surrogate is written; the octets of the file are UTF-8, and reading
them as a catalog is read gives exactly the document of the report, in which every result and every
failure stands once and in order. -/
theorem write_round_trips {path : Path} {d : Disk} (hground : d.IsGrounded)
    (hmade : (d.ensureDirectories path.parent).1 = .ok ())
    (htakes : (d.ensureDirectories path.parent).2.Takes path) (hscalars : ¬ report.HasSurrogate) :
    (report.write path d).1 = .ok () ∧
      (∃ octets cs, (report.write path d).2.read path = .ok octets ∧
        Text.Utf8.decode octets = .ok cs ∧
          Json.read (Text.unifyNewlines cs) = .ok report.document) ∧
      Catalog.load (report.write path d).2 path = Catalog.parse report.document ∧
      ∃ groups failures, report.Tells groups failures ∧
        report.document = .object [("failures", .array (failures.map Failure.toJson)),
          ("groups", .array (groups.map GroupResult.toJson))] := by
  obtain ⟨octets, hoctets⟩ := exists_encode_document_iff.mpr hscalars
  obtain ⟨hwritten, hread⟩ := read_write hground hmade htakes hoctets
  have hdecoded := Text.Utf8.decode_of_encode hoctets
  have hdocument := Json.read_unifyNewlines_write (isPlain_document hscalars)
  refine ⟨hwritten, ⟨octets, _, hread, hdecoded, hdocument⟩, ?_,
    report.sortedGroups, report.sortedFailures, report.tells_sorted, rfl⟩
  unfold Catalog.load Catalog.ofOctets
  rw [hread]
  dsimp only
  rw [hdecoded]
  dsimp only
  rw [hdocument]

/-- A report with a quote, newlines, a control and a backslash in its texts, with groups out of
order and a group without artifacts. -/
def escaping : RunReport where
  groups := [⟨"wmi", [Path.ofText "s/\u00e9"]⟩, ⟨"\"trace\"\r\n", []⟩]
  failures := [⟨"wmi", "C:\\", .process, "\x00"⟩]

/-- A disk with nothing on it. -/
def blank : Disk := ⟨.directory [], [], []⟩

/-- It is read back from a file in a directory that was made for it. -/
theorem write_round_trips_escaping :
    ¬ escaping.HasSurrogate ∧ (blank.ensureDirectories (Path.ofText "s/r").parent).1 = .ok () ∧
      (blank.ensureDirectories (Path.ofText "s/r").parent).2.Takes (Path.ofText "s/r") ∧
      ∃ octets cs, (escaping.write (Path.ofText "s/r") blank).2.read (Path.ofText "s/r") =
          .ok octets ∧ Text.Utf8.decode octets = .ok cs ∧
        Json.read (Text.unifyNewlines cs) = .ok escaping.document := by
  have hscalars : ¬ escaping.HasSurrogate := by
    unfold HasSurrogate Failure.HasSurrogate GroupResult.HasSurrogate Text.HasSurrogate
    decide +kernel
  have hground : blank.IsGrounded := ⟨[], rfl⟩
  have hmade : (blank.ensureDirectories (Path.ofText "s/r").parent).1 = .ok () := by
    decide +kernel
  have htakes :
      (blank.ensureDirectories (Path.ofText "s/r").parent).2.Takes (Path.ofText "s/r") := by
    have hvacant : (blank.ensureDirectories (Path.ofText "s/r").parent).2.locate ⟨true, true⟩
        (Path.ofText "s/r") = .ok (.vacant [[0x73], [0x72]]) := by
      decide +kernel
    exact .vacant hvacant
  exact ⟨hscalars, hmade, htakes, (write_round_trips hground hmade htakes hscalars).2.1⟩

end RunReport

end Diagnostics
