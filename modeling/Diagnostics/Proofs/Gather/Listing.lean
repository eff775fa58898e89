import Diagnostics.Proofs.FanOut.Accounting
import Diagnostics.Proofs.Gather.Run
import Diagnostics.Proofs.Task.Artifact

/-!
# The artifacts that a run lists

What a run lists for a group of tasks are paths of artifacts. Those that were opened by their tasks
name files when the run is over, and so does every path that named a file at any moment of the run.
That leaves the artifacts that are left to programs: a program that is to write its own file and
ends with a status of zero is believed, and its artifact is listed whether there is one or not.
-/

set_option autoImplicit false

namespace Diagnostics

open Diagnostics.Action Disk

/-- Writing a report removes nothing. -/
theorem RunReport.extends_write {d : Disk} (hground : d.IsGrounded) (report : RunReport)
    (path : Path) : d.Extends (report.write path d).2 := by
  unfold write
  have hmade := extends_ensureDirectories hground path.parent
  generalize d.ensureDirectories path.parent = made at hmade
  obtain ⟨outcome, left⟩ := made
  cases outcome with
  | error e => exact hmade
  | ok _ =>
    dsimp only
    cases hopened : left.openForWriting path with
    | error e => exact hmade
    | ok opened =>
      obtain ⟨place, disk⟩ := opened
      have hdisk :=
        hmade.trans (openForWriting_ok (hmade.isGrounded hground) hopened).1.toExtends
      dsimp only
      cases Text.Utf8.encode report.document.write with
      | error e => exact hdisk
      | ok octets => exact hdisk.trans (addsFiles_flushAt disk place octets).toExtends

/-- Nothing is removed from one moment of a run to a later one. -/
theorem FanOut.extends_of_steps {context : Context} {limit : Nat} {f g : FanOut}
    (hground : f.session.IsGrounded) (h : Steps context limit f g) :
    g.session.IsGrounded ∧ f.session.Extends g.session := by
  have hf : Establishing context Session.IsGrounded Session.Extends (fun _ _ _ => True) f :=
    ⟨hground, fun _ _ => establishes_of_forall fun _ _ => trivial, fun _ _ => trivial⟩
  obtain ⟨hg, hextends⟩ := hf.of_steps staysWithin_extends (fun _ _ _ _ _ h => h) h
  exact ⟨hg.session, hextends⟩

namespace GatherRun

section

variable {env : Environment} {backend : Option Backend} {request : GatherRequest} {host : Host}
  (run : GatherRun env backend request host)

theorem isGrounded_begun (hground : host.disk.IsGrounded) : run.begun.IsGrounded := by
  have hbegun : run.begun =
      ((ensureDirectories run.settings.staging).settle ⟨host, []⟩).2 := by rw [run.made]
  rw [hbegun]
  exact (extends_ensureDirectories hground run.settings.staging).isGrounded hground

/-- From any moment of a run to what it leaves nothing is removed. -/
theorem extends_outcome (hground : host.disk.IsGrounded) {f : FanOut} (h : run.Passes f) :
    f.session.host.disk.Extends run.outcome.2.disk := by
  obtain ⟨hbefore, hafter⟩ := h
  have hf := (FanOut.extends_of_steps (run.isGrounded_begun hground) hbefore).1
  obtain ⟨hended, hextends⟩ := FanOut.extends_of_steps hf hafter
  exact Disk.Extends.trans hextends (RunReport.extends_write hended run.ended.report _)

/-- When all workers are joined, what was joined of a group lists what its tasks returned. -/
theorem lists_ended (hground : host.disk.IsGrounded) :
    ∀ j ∈ run.ended.joined, j.group.Lists run.context j.outcome run.ended.session := by
  have hinitial : FanOut.Establishing run.context Session.IsGrounded Session.Extends
      (fun group => group.Lists run.context) (FanOut.initial run.selected run.begun) := by
    refine ⟨run.isGrounded_begun hground, fun w hw => ?_, fun j hj => nomatch hj⟩
    obtain ⟨group, hgroup, rfl⟩ := List.mem_map.mp hw
    exact @Group.gather_establishes (run.context.forGroup group.name) run.begun group
      (run.selected_ok.1 group hgroup)
  exact (hinitial.of_steps staysWithin_extends
    (fun _ _ _ _ hextends hlists => hlists.of_extends hextends) run.steps).1.joined

/-- What the report lists was joined of a selected group, and has its name. -/
theorem exists_joined {listed : GroupResult} (h : listed ∈ run.ended.report.groups) :
    ∃ j ∈ run.ended.joined, j.result = listed ∧ j.group ∈ run.selected ∧
      j.group.name = listed.name := by
  have hconsistent := FanOut.consistent_of_steps run.steps
  obtain ⟨j, hj, rfl⟩ := List.mem_map.mp h
  refine ⟨j, hj, rfl, ?_, (FanOut.result_name (hconsistent.ended j hj).1).symm⟩
  exact (hconsistent.accounts run.joined).groups.mem_iff.mp (List.mem_map_of_mem hj)

theorem report_eq {result : GatherResult} (h : run.outcome.1 = .ok result) :
    result.report = run.ended.report := by
  obtain ⟨-, -, rfl⟩ := Settings.conclude_ok_iff.mp (Prod.ext h rfl : run.outcome = (_, _))
  rfl

/-- **Listed artifacts exist if they were there at any moment.** What is listed is the result of a
selected group, and if that is a group of tasks, each path is that of the artifact of one of them.
It names a file in the end if the task opened it, or if it named a file at any moment of the run,
which its program may have written. -/
theorem listed_artifacts_exist (hground : host.disk.IsGrounded) {result : GatherResult}
    (h : run.outcome.1 = .ok result) :
    ∀ listed ∈ result.report.groups, ∃ group ∈ run.selected, group.name = listed.name ∧
      ∀ tasks, group.work = .tasks tasks → ∀ path ∈ listed.artifacts, ∃ task ∈ tasks,
        path = run.context.artifactPath task.output ∧
          ((task.opens = true ∨ ∃ f, run.Passes f ∧ f.session.host.disk.isFile path = true) →
            run.outcome.2.disk.isFile path = true) := by
  intro listed hlisted
  rw [run.report_eq h] at hlisted
  obtain ⟨j, hj, rfl, hselected, hname⟩ := run.exists_joined hlisted
  refine ⟨j.group, hselected, hname, fun tasks hwork path hpath => ?_⟩
  have hlists := run.lists_ended hground j hj tasks hwork
  obtain ⟨ended, houtcome, hpath⟩ := FanOut.ok_of_mem_result hpath
  obtain ⟨task, htask, hartifact, hfile⟩ := hlists ended houtcome path hpath
  refine ⟨task, htask, hartifact, ?_⟩
  rintro (hopens | ⟨f, hf, hthere⟩)
  · exact (run.extends_outcome hground ⟨run.steps, .refl⟩).isFile (hfile hopens)
  · exact (run.extends_outcome hground hf).isFile hthere

end

namespace Example

/-- The second program is to write its own file. -/
def trusting : Host :=
  machine (catalog [("A", [task "process" (program "one" "a"),
    task "process" (("produces_own_file", .bool true) :: program "one" "b")])]) []
    (printing "one" 0x31)

def trusted : Group :=
  ⟨"A", false,
    .tasks [.process ⟨"one", "", "a", false, none⟩, .process ⟨"one", "", "b", true, none⟩]⟩

/-- Both artifacts are listed. -/
theorem exists_run_trusting :
    ∃ (run : GatherRun (fun _ => none) none (request "s") trusting) (result : GatherResult),
      run.outcome.1 = .ok result ∧
        result.report = ⟨[⟨"A", [Path.ofText "s/a", Path.ofText "s/b"]⟩], []⟩ ∧
        run.outcome.2 = (gather (fun _ => none) none (request "s") trusting).2 := by
  obtain ⟨run, result, hgather, hresult, hleft⟩ :=
    @exists_gatherRun_of_isOk (fun _ => none) none (request "s") trusting (by decide +kernel)
  have hreport : (gather (fun _ => none) none (request "s") trusting).1.map GatherResult.report =
      .ok ⟨[⟨"A", [Path.ofText "s/a", Path.ofText "s/b"]⟩], []⟩ := by
    decide +kernel
  rw [hgather] at hreport
  exact ⟨run, result, hresult, Except.ok.inj hreport, hleft⟩

end Example

open GatherRun.Example

theorem listed_artifacts_exist_redirected :
    ∃ (run : GatherRun (fun _ => none) none (request "s") trusting) (result : GatherResult),
      run.outcome.1 = .ok result ∧
        result.report.groups = [⟨"A", [Path.ofText "s/a", Path.ofText "s/b"]⟩] ∧
        run.outcome.2.disk.isFile (Path.ofText "s/a") = true := by
  obtain ⟨run, result, hresult, hreport, -⟩ := exists_run_trusting
  refine ⟨run, result, hresult, congrArg RunReport.groups hreport, ?_⟩
  have hlisted : ⟨"A", [Path.ofText "s/a", Path.ofText "s/b"]⟩ ∈ result.report.groups := by
    rw [hreport]
    exact List.mem_cons_self
  obtain ⟨group, hgroup, -, hexist⟩ := run.listed_artifacts_exist ⟨_, rfl⟩ hresult _ hlisted
  have hselected : run.selected = [trusted] := run.selected_eq (by decide +kernel)
  rw [hselected, List.mem_singleton] at hgroup
  subst hgroup
  obtain ⟨task, htask, hpath, hfile⟩ := hexist _ rfl (Path.ofText "s/a") List.mem_cons_self
  have hstaging : run.context.staging = Path.ofText "s" := run.staging_eq rfl
  unfold Context.artifactPath at hpath
  rw [hstaging] at hpath
  -- Only the first task has an artifact at this path, and it opens it.
  rcases List.mem_cons.mp htask with rfl | htask
  · exact hfile (Or.inl rfl)
  · rw [List.mem_singleton.mp htask] at hpath
    exact absurd hpath (by decide +kernel)

/-- The second program has written nothing and ended well, so its artifact is listed without any
failure, and there is no such file. -/
theorem listed_artifact_missing :
    ∃ (run : GatherRun (fun _ => none) none (request "s") trusting) (result : GatherResult),
      run.outcome.1 = .ok result ∧
        result.report = ⟨[⟨"A", [Path.ofText "s/a", Path.ofText "s/b"]⟩], []⟩ ∧
        run.outcome.2.disk.isFile (Path.ofText "s/b") = false := by
  obtain ⟨run, result, hresult, hreport, hleft⟩ := exists_run_trusting
  refine ⟨run, result, hresult, hreport, ?_⟩
  rw [hleft]
  decide +kernel

end GatherRun

end Diagnostics
