import Diagnostics.Proofs.Catalog.Untraced
import Diagnostics.Proofs.Gather.Delivery
import Diagnostics.Proofs.Report.Filed

/-!
# The lines of a run and the file that it leaves

A run that returns has told its report twice: by the lines of its result, and by a file in the
staging directory. The lines are made from the report, and the file went through JSON and UTF-8 and
a disk; yet whoever reads the file finds there what the lines say
(`GatherRequest.summary_matches_file`). What carries this is that a run returns only if all the
octets of its report were taken (`Settings.conclude_ok_iff`), and that these can be read as one
report alone (`RunReport.holdsReport_write_iff`).
-/

set_option autoImplicit false

namespace Diagnostics

open Disk
open Diagnostics.Catalog (IsObject)

/-- A file can be read at a path, and a report stands in it. -/
def Disk.HoldsReport (disk : Disk) (path : Path) (filed : FiledReport) : Prop :=
  ∃ octets document, disk.read path = .ok octets ∧ Catalog.ReadsAs octets document ∧
    IsObject DescribesReport document filed

/-- A result tells a filed report: by its lines, the last of which names the file, and by a success
that a strict request has exactly if there are no failures. -/
structure GatherResult.TellsOf (result : GatherResult) (strict : Bool) (path : Path)
    (filed : FiledReport) : Prop where
  lines : ∃ lines, filed.IsToldBy lines ∧ result.lines = lines ++ ["Report: " ++ path.text]
  success : result.success = false ↔ strict = true ∧ filed.failures ≠ []

/-! ## The file -/

theorem Catalog.ReadsAs.unique {octets : List UInt8} {document other : Json}
    (h : ReadsAs octets document) (hother : ReadsAs octets other) : other = document := by
  obtain ⟨cs, hdecode, hread⟩ := h
  obtain ⟨cs', hdecode', hread'⟩ := hother
  rw [hdecode] at hdecode'
  cases hdecode'
  rw [hread] at hread'
  exact (Except.ok.inj hread').symm

/-- **What stands in the file of a report that was written** is the report, and nothing else can be
read there. -/
theorem RunReport.holdsReport_write_iff {report : RunReport} {path : Path} {d : Disk}
    (hground : d.IsGrounded) (hparent : d.isDirectory path.parent = true)
    (hwritten : (report.write path d).1 = .ok ()) (filed : FiledReport) :
    (report.write path d).2.HoldsReport path filed ↔ filed = report.filed := by
  obtain ⟨home, hlocate, hhome⟩ := isDirectory_iff.mp hparent
  have hmade := ensureDirectories_of_located hlocate hhome
  obtain ⟨hscalars, htakes⟩ := (write_ok_iff hground hparent).mp hwritten
  have htakes' : (d.ensureDirectories path.parent).2.Takes path := by
    rw [hmade]
    exact htakes
  obtain ⟨octets, hoctets⟩ := exists_encode_document_iff.mpr hscalars
  obtain ⟨-, hread⟩ := read_write hground (congrArg Prod.fst hmade) htakes' hoctets
  have hreads : Catalog.ReadsAs octets report.document :=
    ⟨_, Text.Utf8.decode_of_encode hoctets,
      Json.read_unifyNewlines_write (isPlain_document hscalars)⟩
  rw [← describesReport_document_iff]
  constructor
  · rintro ⟨octets', document, hread', hreads', hfiled⟩
    rw [hread] at hread'
    cases hread'
    rw [← hreads.unique hreads']
    exact hfiled
  · intro hfiled
    exact ⟨octets, report.document, hread, hreads, hfiled⟩

/-! ## The result -/

theorem RunReport.tellsOf_filed (report : RunReport) (strict : Bool) (path : Path) :
    GatherResult.TellsOf
      { lines := report.lines ++ ["Report: " ++ path.text]
        success := !(strict && !report.failures.isEmpty)
        report := report } strict path report.filed where
  lines := ⟨report.lines, report.isToldBy_lines, rfl⟩
  success := by
    rw [← List.length_pos_iff, length_filed_failures, List.length_pos_iff]
    simp

section

variable {env : Environment} {backend : Option Backend} {request : GatherRequest} {host : Host}

/-- **The lines and the file tell of the same run.** If a request returns, whatever the schedule,
and so for what `gather` does, exactly one report can be read from the file in its staging
directory, and the result tells that report: a line for each group in the order of the file, a line
for each failure in any order, how many there are of both, and that a strict request has failed if
there are failures. -/
theorem GatherRequest.summary_matches_file (hground : host.disk.IsGrounded) :
    request.CanEnd env backend host (gather env backend request host) ∧
      ∀ result left, request.CanEnd env backend host (.ok result, left) →
        ∃ settings filed, request.settings env = .ok settings ∧
          (∀ other, left.disk.HoldsReport (settings.staging.child RunReport.fileName) other ↔
            other = filed) ∧
          result.TellsOf request.strict (settings.staging.child RunReport.fileName) filed := by
  refine ⟨gather_canEnd env backend request host, fun result left hend => ?_⟩
  obtain ⟨run, houtcome⟩ := hend.exists_gatherRun
  obtain ⟨hwritten, rfl, rfl⟩ := Settings.conclude_ok_iff.mp houtcome
  have hended : run.ended.session.host.disk.IsGrounded :=
    (FanOut.extends_of_steps (run.isGrounded_begun hground) run.steps).1
  exact ⟨run.settings, run.ended.report.filed, (plan_ok run.planned).1,
    RunReport.holdsReport_write_iff hended (run.isDirectory_parent hground) hwritten,
    run.ended.report.tellsOf_filed request.strict _⟩

end

/-- What is printed when the one task of the catalog has failed. -/
def GatherRun.Example.linesOfFailing : List Text :=
  ["Groups: 1", "- A: 0 artifacts", "Failures: 1",
    "- [A] process: two: failed to start: [Errno 2] No such file or directory: 'two'",
    "Report: s/gather_report.json"]

open GatherRun.Example

/-- A strict request whose one task fails has failed, and its file holds what its lines tell. -/
theorem GatherRequest.summary_matches_file_failing :
    failing.disk.IsGrounded ∧ ∃ result left filed,
      gather (fun _ => none) none { request "s" with strict := true } failing =
        (.ok result, left) ∧
      result.lines = linesOfFailing ∧ result.success = false ∧
      left.disk.HoldsReport ((Path.ofText "s").child RunReport.fileName) filed ∧
      result.TellsOf true ((Path.ofText "s").child RunReport.fileName) filed := by
  have hground : failing.disk.IsGrounded := ⟨_, rfl⟩
  have hreturned : (gather (fun _ => none) none { request "s" with strict := true } failing).1.map
      (fun result => (result.lines, result.success)) = .ok (linesOfFailing, false) := by
    decide +kernel
  obtain ⟨hend, hreturns⟩ :=
    @summary_matches_file (fun _ => none) none { request "s" with strict := true } _ hground
  generalize gather (fun _ => none) none { request "s" with strict := true } failing = ended
    at hreturned hend
  obtain ⟨fault | result, left⟩ := ended
  · cases hreturned
  · obtain ⟨settings, filed, hsettings, hholds, htells⟩ := hreturns result left hend
    have hstaging : settings.staging = Path.ofText "s" := settings_staging rfl hsettings
    rw [hstaging] at hholds htells
    obtain ⟨hlines, hsuccess⟩ := Prod.mk.inj (Except.ok.inj hreturned)
    exact ⟨hground, result, left, filed, rfl, hlines, hsuccess, (hholds filed).mpr rfl, htells⟩

end Diagnostics
