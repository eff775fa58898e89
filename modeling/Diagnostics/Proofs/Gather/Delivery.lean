import Diagnostics.Proofs.Disk.Takes
import Diagnostics.Proofs.Gather.Listing
import Diagnostics.Proofs.Report.Surrogates

/-!
# Whether the caller gets the report

Once there is a plan and the staging directory was made, a request ends with a report on every
selected group, whatever becomes of tasks, roots and groups, or it ends with a fault of writing that
report. Which of the two it is was settled when the staging directory was made, but for surrogates
in the report: no request of a group makes a directory or removes anything, so a file can be written
at the report's path in the end if one could be written there in the beginning
(`GatherRequest.report_delivered_iff`).
-/

set_option autoImplicit false

namespace Diagnostics

open Diagnostics.Action Disk

/-! ## Writing the report -/

theorem RunReport.ne_nil_of_encode_document {report : RunReport} {octets : List UInt8}
    (h : Text.Utf8.encode report.document.write = .ok octets) : octets ≠ [] := by
  have hbrace : ∃ rest, report.document.write = CodePoint.ofChar '\x7b' :: rest := ⟨_, rfl⟩
  obtain ⟨rest, hwrite⟩ := hbrace
  have hfirst : Text.Utf8.octetsOf (CodePoint.ofChar '\x7b').value ≠ [] := by decide
  rw [hwrite] at h
  unfold Text.Utf8.encode at h
  split at h
  · cases h
  · cases h
    rw [List.flatMap_cons]
    exact List.append_ne_nil_of_left_ne_nil hfirst _

/-- A report is written to a directory that is there exactly if it has octets and a file takes
them. -/
theorem RunReport.write_ok_iff {report : RunReport} {path : Path} {d : Disk}
    (hground : d.IsGrounded) (hparent : d.isDirectory path.parent = true) :
    (report.write path d).1 = .ok () ↔ ¬ report.HasSurrogate ∧ d.Takes path := by
  obtain ⟨home, hlocate, hhome⟩ := isDirectory_iff.mp hparent
  rw [takes_iff_opened hground, ← exists_encode_document_iff]
  unfold write
  rw [ensureDirectories_of_located hlocate hhome]
  dsimp only
  cases d.openForWriting path with
  | error e => simp
  | ok opened =>
    obtain ⟨place, disk⟩ := opened
    dsimp only
    cases hencode : Text.Utf8.encode report.document.write with
    | error e => simp
    | ok octets =>
      have htaken := @flushAt_taken_iff disk place octets (ne_nil_of_encode_document hencode)
      dsimp only
      cases htook : (disk.flushAt place octets).1 with
      | true =>
        obtain ⟨content, hat⟩ := htaken.mp htook
        simpa using ⟨content, hat⟩
      | false =>
        have hnot : ¬ ∃ content, disk.top.at? place = some (.file content) := by
          rw [← htaken, htook]
          exact Bool.false_ne_true
        simpa using hnot

/-! ## Groups make no directories -/

/-- While groups run, files are added and nothing else. -/
theorem FanOut.addsFiles_of_steps {context : Context} {limit : Nat} {selected : List Group}
    {s : Session} {f : FanOut} (hground : s.IsGrounded)
    (h : Steps context limit (initial selected s) f) : s.AddsFiles f.session := by
  have hstays : StaysWithin Session.IsGrounded
      (fun _ r => ∀ path, r ≠ .ensureDirectories path) Session.AddsFiles := by
    refine ⟨fun _ => .refl _, fun h h' => AddsFiles.trans h h', fun hr hs => ?_,
      fun _ hs => ⟨hs, .refl _⟩⟩
    have hadds := Session.addsFiles_answer hs hr
    exact ⟨hadds.toExtends.isGrounded hs, hadds⟩
  have hinitial : Guarded context Session.IsGrounded
      (fun _ r => ∀ path, r ≠ .ensureDirectories path) (initial selected s) := by
    refine ⟨hground, fun w hw => ?_⟩
    obtain ⟨group, hgroup, rfl⟩ := List.mem_map.mp hw
    have hasks : ∀ task ∈ group.tasks, ∀ r,
        task.Asks (context.forGroup group.name) (fun _ => True) r →
          ∀ path, r ≠ .ensureDirectories path := by
      rintro task _ r hasks path rfl
      exact hasks.makes
    exact (Group.gather_guarantees_of_asks rfl (fun _ _ _ _ _ _ _ _ => trivial) hasks
      (fun roots _ path => nofun) fun failure _ path => nofun).mono fun _ _ _ => trivial
  exact (hinitial.of_steps hstays h).2

section

variable {env : Environment} {backend : Option Backend} {request : GatherRequest} {host : Host}

namespace GatherRun

/-- A run with settings and groups ended so: it has one result for each selected group, and what
became of its report depends on the report and on the disk that it was begun on. -/
structure EndsAs (run : GatherRun env backend request host) (settings : Settings)
    (groups : List Group) (ended : Except GatherFault GatherResult × Host) : Prop where
  outcome : ended = (run.outcome.1.mapError .run, run.outcome.2)
  names : (run.ended.report.groups.map GroupResult.name).Perm
    ((settings.selected groups).map Group.name)
  /-- The report is returned if it tells no surrogate, and a file could be written at its path once
  the staging directory was made. -/
  returned : (∃ result, ended.1 = .ok result ∧ result.report = run.ended.report) ↔
    ¬ run.ended.report.HasSurrogate ∧
      (host.disk.ensureDirectories settings.staging).2.Takes
        (settings.staging.child RunReport.fileName)

variable (run : GatherRun env backend request host)

/-- A run has one result for each selected group. -/
theorem names_perm : (run.ended.report.groups.map GroupResult.name).Perm
    (run.selected.map Group.name) := by
  have haccounts := (FanOut.consistent_of_steps run.steps).accounts run.joined
  rw [haccounts.names]
  have hnames := haccounts.groups.map Group.name
  rw [List.map_map] at hnames
  exact hnames

/-- The directory of the report's file is there when the groups have run. -/
theorem isDirectory_parent (hground : host.disk.IsGrounded) :
    run.ended.session.host.disk.isDirectory
      (run.settings.staging.child RunReport.fileName).parent = true := by
  have hadds : run.begun.host.disk.AddsFiles run.ended.session.host.disk :=
    FanOut.addsFiles_of_steps (run.isGrounded_begun hground) run.steps
  rw [Path.parent_child]
  exact hadds.isDirectory (isDirectory_of_ensureDirectories hground run.ensureDirectories_staging)

/-- A run returns its report exactly if that tells no surrogate, and a file could be written at its
path when the staging directory was made. -/
theorem outcome_ok_iff (hground : host.disk.IsGrounded) :
    (∃ result, run.outcome.1 = .ok result ∧ result.report = run.ended.report) ↔
      ¬ run.ended.report.HasSurrogate ∧
        run.begun.host.disk.Takes (run.settings.staging.child RunReport.fileName) := by
  have hbegun : run.begun.IsGrounded := run.isGrounded_begun hground
  have hadds : run.begun.host.disk.AddsFiles run.ended.session.host.disk :=
    FanOut.addsFiles_of_steps hbegun run.steps
  rw [← hadds.takes_iff hbegun, ← RunReport.write_ok_iff (hadds.isGrounded hbegun)
    (run.isDirectory_parent hground)]
  unfold outcome Settings.conclude
  dsimp only
  cases (run.ended.report.write (run.settings.staging.child RunReport.fileName)
    run.ended.session.host.disk).1 with
  | error e => simp [Except.mapError, Except.map]
  | ok _ => simp [Except.mapError, Except.map]

end GatherRun

namespace GatherRequest

/-- **The caller gets the report of every run that can be written.** If a request has a plan and its
staging directory can be made, then whatever the schedule, and so for what `gather` does, there is
a run with one result for each selected group. Its report is returned exactly if it tells no
surrogate and a file could be written at its path once the staging directory was made. -/
theorem report_delivered_iff (hground : host.disk.IsGrounded) {settings : Settings}
    {groups : List Group} (hplan : request.plan env host.disk = .ok (settings, groups))
    (hmade : (host.disk.ensureDirectories settings.staging).1 = .ok ()) :
    request.CanEnd env backend host (gather env backend request host) ∧
      ∀ ended, request.CanEnd env backend host ended →
        ∃ run : GatherRun env backend request host, run.EndsAs settings groups ended := by
  refine ⟨gather_canEnd env backend request host, fun ended hend => ?_⟩
  cases hend with
  | refused hrefused =>
    rw [hplan] at hrefused
    cases hrefused
  | unstaged hsame hrefused =>
    rw [hplan] at hsame
    cases hsame
    rw [hrefused] at hmade
    cases hmade
  | ran run =>
    have hsame := run.planned
    rw [hplan] at hsame
    obtain ⟨hsettings, hgroups⟩ := Prod.mk.inj (Except.ok.inj hsame)
    have hok := run.outcome_ok_iff hground
    have hnames := run.names_perm
    unfold GatherRun.selected at hnames
    have hbegun := congrArg Prod.snd run.ensureDirectories_staging
    dsimp only at hbegun
    rw [← hbegun] at hok
    rw [← hsettings] at hok hnames
    rw [← hgroups] at hnames
    refine ⟨run, ⟨rfl, hnames, Iff.trans ?_ hok⟩⟩
    cases run.outcome.1 with
    | error e => simp [Except.mapError]
    | ok result => simp [Except.mapError]

end GatherRequest

end

namespace GatherRun.Example

/-- The one task of the catalog is a program that is not there. -/
def failing : Host :=
  machine (catalog [("A", [task "process" (program "two" "a")])]) [] (printing "one" 0x31)

def notFound : Failure :=
  ⟨"A", "two", .process, "two: failed to start: [Errno 2] No such file or directory: 'two'"⟩

/-- In the staging directory is a directory of the report's name. -/
def obstructed : Host :=
  machine (catalog [("A", [task "process" (program "one" "a")])])
    [([0x73], .directory
      [((RunReport.fileName : Text).flatMap Text.Utf8.nameOctetsOf, .directory [])])]
    (printing "one" 0x31)

end GatherRun.Example

namespace GatherRequest

open GatherRun.Example

/-- A run whose one task fails returns its report. -/
theorem report_delivered_iff_failing :
    (gather (fun _ => none) none (request "s") failing).1.map GatherResult.report =
        .ok ⟨[⟨"A", []⟩], [notFound]⟩ ∧
      ∃ run : GatherRun (fun _ => none) none (request "s") failing,
        run.ended.report.groups.map GroupResult.name = [("A" : Text)] ∧
          ¬ run.ended.report.HasSurrogate ∧
            (failing.disk.ensureDirectories (Path.ofText "s")).2.Takes
              ((Path.ofText "s").child RunReport.fileName) := by
  obtain ⟨hreport, hselected⟩ :
      (gather (fun _ => none) none (request "s") failing).1.map GatherResult.report =
          .ok ⟨[⟨"A", []⟩], [notFound]⟩ ∧
        ((request "s").plan (fun _ => none) failing.disk).toOption.map
          (fun plan => (plan.1.selected plan.2).map Group.name) = some [("A" : Text)] := by
    decide +kernel
  refine ⟨hreport, ?_⟩
  cases hplan : (request "s").plan (fun _ => none) failing.disk with
  | error fault =>
    rw [hplan] at hselected
    cases hselected
  | ok plan =>
    obtain ⟨settings, groups⟩ := plan
    have hstaging : settings.staging = Path.ofText "s" := settings_staging rfl (plan_ok hplan).1
    have hmade : (failing.disk.ensureDirectories settings.staging).1 = .ok () := by
      rw [hstaging]
      decide +kernel
    obtain ⟨hend, hruns⟩ := @report_delivered_iff _ none _ _ ⟨_, rfl⟩ _ _ hplan hmade
    obtain ⟨run, ⟨hended, hnames, hdelivered⟩⟩ := hruns _ hend
    rw [hplan] at hselected
    have hname : (settings.selected groups).map Group.name = [("A" : Text)] :=
      Option.some.inj hselected
    rw [hname, List.perm_singleton] at hnames
    rw [hstaging] at hdelivered
    refine ⟨run, hnames, hdelivered.mp ?_⟩
    -- It has returned a report, and that is the run's.
    cases houtcome : run.outcome.1 with
    | error fault =>
      rw [hended, houtcome] at hreport
      cases hreport
    | ok result =>
      rw [hended, houtcome]
      exact ⟨result, rfl, run.report_eq houtcome⟩

/-- All programs have run, and the report cannot be written where a directory is. -/
theorem report_not_delivered :
    ((request "s").plan (fun _ => none) obstructed.disk).isOk = true ∧
      (obstructed.disk.ensureDirectories (Path.ofText "s")).1 = .ok () ∧
      (gather (fun _ => none) none (request "s") obstructed).1 =
        .error (.run (.os (.errno .isDirectory (some "s/gather_report.json")))) := by
  decide +kernel

end GatherRequest

end Diagnostics
