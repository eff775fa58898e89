import Diagnostics.Proofs.Disk.Roots
import Diagnostics.Proofs.FanOut.Accounting
import Diagnostics.Proofs.Gather.Run
import Diagnostics.Proofs.Task.Blame

/-!
# Whose failures a run reports

Failures are made in many places: by tasks, by the start phase of a capture, by whoever runs tasks
and did not expect their fault, by the walk of a root, and in joining a group. All of them go into
one record. `Group.Blames` is the list of what a group can put a failure down to; that each failure
of a run is on the list of a selected group is an invariant of what the workers record
(`FanOut.Recording`), since a worker can record nothing but what its group's work asks for.

What is recorded in joining a group is told from how the group ended, so it comes with the accounts
of the run.
-/

set_option autoImplicit false

namespace Diagnostics

open Diagnostics.Action

/-- What a group can put a failure down to: its source and its class. -/
inductive Group.Blames (group : Group) : Text → FailureKind → Prop
  | task {task : Task} {kind : FailureKind} :
      task ∈ group.tasks → kind ∈ [.io, .process, .query, .unexpected] →
      Blames group task.label kind
  | start {task : CaptureTask} :
      .capture task ∈ group.tasks → Blames group task.start.label .captureStart
  | stop {task : CaptureTask} :
      .capture task ∈ group.tasks → Blames group task.stop.label .process
  | root {roots : List Path} {root : Path} :
      group.work = .roots roots → root ∈ roots → Blames group root.text .traversal

/-- A failure with a source on which the group can blame it. Its words begin with the source, if
they are not about what stood in the way below a root. -/
structure Failure.IsBlamedBy (failure : Failure) (g : Group) : Prop where
  group : failure.group = g.name
  source : g.Blames failure.source failure.kind
  message : failure.kind ≠ .traversal → (failure.source ++ ": " : Text) <+: failure.message

/-! ## What a group records -/

section

variable {group : Group} {context : Context}

/-- An error that leaves a failure on which the group can blame it. -/
def TaskError.IsBlamedBy (e : TaskError) (group : Group) : Prop :=
  (e.toFailure group.name none).IsBlamedBy group

theorem TaskError.IsOf.isBlamedBy {label : Text} {kinds : List FailureKind} {e : TaskError}
    (h : e.IsOf label kinds) (hkinds : ∀ kind ∈ kinds, group.Blames label kind) :
    e.IsBlamedBy group where
  group := rfl
  source := by
    show group.Blames e.source e.kind
    rw [h.source_eq]
    exact hkinds e.kind h.kind_mem
  message := fun _ => by
    show (e.source ++ ": " : Text) <+: e.message
    rw [h.source_eq]
    exact h.message_prefix

theorem reports_record {records : Failure → Prop} {ends : TaskError → Prop} {failure : Failure}
    (h : records failure) : (recordFailure failure).Reports records ends :=
  reports_request (fun f hf => by rwa [List.mem_singleton.mp hf]) fun _ => reports_pure ()

/-- The phases of a catalogued capture write their own file. -/
theorem ProcessTask.kinds_of_ownFile {task : ProcessTask} (h : task.ownFile = true) :
    task.kinds = [.process] := by
  unfold kinds
  rw [if_pos h]

theorem Task.reports_run {task : Task} (htask : task ∈ group.tasks) (h : task.IsCatalogued)
    (hbackend : context.backend ≠ .service) (hname : context.group = group.name) :
    (task.run context).Reports (Failure.IsBlamedBy · group) (TaskError.IsBlamedBy · group) := by
  cases task with
  | stub output fault => exact h.elim
  | process task =>
    refine (task.reports_run context).mono fun e he => he.isBlamedBy fun kind hkind => ?_
    refine .task htask ?_
    unfold ProcessTask.kinds at hkind
    split at hkind
    · exact (by decide : [FailureKind.process] ⊆ _) hkind
    · exact (by decide : [FailureKind.io, .process] ⊆ _) hkind
  | query task =>
    refine (task.reports_run hbackend).mono fun e he => he.isBlamedBy fun kind hkind => ?_
    exact .task htask ((by decide : [FailureKind.io, .query] ⊆ _) hkind)
  | capture task =>
    obtain ⟨hstart, hstop, -⟩ := h
    refine (task.reports_run fun e he => ?_).mono fun e he => ?_
    · refine ⟨hname, ?_, fun _ => ?_⟩
      · show group.Blames e.source .captureStart
        rw [he.source_eq]
        exact .start htask
      · show (e.source ++ ": " : Text) <+: e.message
        rw [he.source_eq]
        exact he.message_prefix
    · refine he.isBlamedBy fun kind hkind => ?_
      rw [ProcessTask.kinds_of_ownFile hstop, List.mem_singleton] at hkind
      subst hkind
      exact .stop htask

theorem Task.reports_runRecorded {task : Task} (htask : task ∈ group.tasks)
    (h : task.IsCatalogued) (hbackend : context.backend ≠ .service)
    (hname : context.group = group.name) :
    (task.runRecorded context).Reports (Failure.IsBlamedBy · group) fun _ => False := by
  have hfailed : ∀ failure : Failure, failure.IsBlamedBy group → (do
      recordFailure failure
      return none : Action (Option Path)).Reports (Failure.IsBlamedBy · group) fun _ => False :=
    fun failure h => (reports_record h).bind fun _ => reports_pure none
  -- An unexpected fault is told under the label of the task, with the label before its words.
  have hkind : FailureKind.unexpected ∈ [.io, .process, .query, .unexpected] := by decide
  have hunexpected : ∀ fault : Fault,
      (fault.toFailure context.group task.label).IsBlamedBy group :=
    fun fault => ⟨hname, .task htask hkind, fun _ => List.prefix_append _ _⟩
  unfold Task.runRecorded
  refine (Task.reports_run htask h hbackend hname).attempt_bind fun outcome houtcome => ?_
  rcases outcome with (e | _ | _ | _ | _ | _ | _) | path
  case ok => exact reports_pure _
  case error.task =>
    have he : (e.toFailure context.group none).IsBlamedBy group := by
      rw [hname]
      exact houtcome e rfl
    exact hfailed _ he
  all_goals exact hfailed _ (hunexpected _)

theorem reports_runAll {tasks : List Task} (htasks : tasks ⊆ group.tasks)
    (h : ∀ task ∈ tasks, task.IsCatalogued) (hbackend : context.backend ≠ .service)
    (hname : context.group = group.name) :
    (runAll context tasks).Reports (Failure.IsBlamedBy · group) fun _ => False := by
  induction tasks with
  | nil => exact reports_pure []
  | cons task tasks ih =>
    obtain ⟨hfirst, hothers⟩ := List.forall_mem_cons.mp h
    unfold runAll
    refine (Task.reports_runRecorded (htasks List.mem_cons_self) hfirst hbackend hname).bind
      fun path => ?_
    exact (ih (List.subset_of_cons_subset htasks) hothers).bind fun paths => reports_pure _

end

theorem reports_reportAll {group : Group} {context : Context} (hname : context.group = group.name) :
    ∀ errors : List TaskError, (∀ e ∈ errors, e.IsBlamedBy group) →
      (context.reportAll errors).Reports (Failure.IsBlamedBy · group) fun _ => False
  | [], _ => reports_pure ()
  | e :: errors, h => by
    obtain ⟨hfirst, hothers⟩ := List.forall_mem_cons.mp h
    unfold Context.reportAll Context.report
    rw [hname]
    exact (reports_record hfirst).bind fun _ => reports_reportAll hname errors hothers

/-- **What a group records it can blame on something of its own.** -/
theorem Group.reports_gather {group : Group} {context : Context} (h : group.IsCatalogued)
    (hbackend : context.backend ≠ .service) (hname : context.group = group.name) :
    (group.gather context).Reports (Failure.IsBlamedBy · group) fun _ => False := by
  unfold IsCatalogued at h
  unfold gather
  cases hwork : group.work with
  | broken fault =>
    rw [hwork] at h
    exact h.elim
  | tasks tasks =>
    rw [hwork] at h
    have htasks : tasks ⊆ group.tasks := by rw [tasks_of_work hwork]; exact List.Subset.refl _
    exact (reports_runAll htasks h hbackend hname).bind fun paths => reports_pure _
  | roots roots =>
    refine Reports.bind (reports_request (Request.records_of_silent rfl) fun s => ?_)
      fun paths => reports_pure _
    unfold Session.answer
    dsimp only
    cases hcollect : s.host.disk.collect roots with
    | error fault => exact reports_throw fault.toFault_ne_task
    | ok found =>
      obtain ⟨paths, errors⟩ := found
      show (context.reportAll errors >>= fun _ => pure paths).Reports _ _
      refine Reports.bind (reports_reportAll hname errors fun e he => ?_) fun _ => reports_pure _
      obtain ⟨root, hroot, fault, rfl⟩ := Disk.collect_errors hcollect e he
      exact ⟨rfl, .root hwork hroot, fun hkind => absurd rfl hkind⟩

/-! ## What a run records -/

namespace FanOut

variable {context : Context} {limit : Nat} {records : Group → Failure → Prop} {f g : FanOut}

/-- A moment at which all that workers have recorded and will record is such. -/
structure Recording (context : Context) (records : Group → Failure → Prop) (f : FanOut) :
    Prop where
  workers : ∀ w ∈ f.workers, (∀ failure ∈ w.reported, records w.group failure) ∧
    (w.rest context).Reports (records w.group) fun _ => False
  joined : ∀ j ∈ f.joined, ∀ failure ∈ j.reported, records j.group failure

theorem Recording.step (hf : Recording context records f) (h : Step context limit f g) :
    Recording context records g := by
  obtain ⟨hworkers, hjoined⟩ := hf
  refine ⟨fun w hw => ?_, fun j hj => ?_⟩
  · rcases h.of_mem_workers hw with
      ⟨v, hv, hgroup, hreported, hrest⟩ | ⟨group, reported, r, next, hmem, -, rfl⟩
    · rw [← hgroup, ← hreported, ← hrest]
      exact hworkers v hv
    · obtain ⟨hreported, hleft⟩ := hworkers _ hmem
      obtain ⟨hr, hnext⟩ := reports_request_iff.mp hleft
      refine ⟨fun failure hfailure => ?_, hnext f.session⟩
      rcases List.mem_append.mp hfailure with hfailure | hfailure
      · exact hreported failure hfailure
      · exact hr failure hfailure
  · rcases h.of_mem_joined hj with hj | hmem
    · exact hjoined j hj
    · exact (hworkers _ hmem).1

theorem Recording.of_steps (hf : Recording context records f) (h : Steps context limit f g) :
    Recording context records g := by
  induction h with
  | refl => exact hf
  | tail _ hstep ih => exact ih.step hstep

/-- The first result of a name is that of the group, if names are used once. -/
theorem Accounts.group?_eq {selected : List Group} {past : List Failure}
    (hf : f.Accounts selected past) (hnames : (selected.map Group.name).Nodup) {j : Joined}
    (hj : j ∈ f.joined) : f.report.group? j.group.name = some j.result := by
  have hdistinct : (f.joined.map fun j => j.group.name).Nodup := by
    refine (List.Perm.nodup_iff ?_).mpr hnames
    simpa [Function.comp_def] using hf.groups.map Group.name
  have hname : ∀ k ∈ f.joined, k.result.name = k.group.name := by
    have hmap : f.joined.map (fun k => k.result.name) = f.joined.map fun k => k.group.name := by
      rw [← hf.names, report, List.map_map]
      rfl
    exact List.map_inj_left.mp hmap
  obtain ⟨before, after, hjoined⟩ := List.append_of_mem hj
  refine List.find?_eq_some_iff_append.mpr ⟨decide_eq_true (hname j hj),
    before.map Joined.result, after.map Joined.result, ?_, fun result hresult => ?_⟩
  · show f.joined.map Joined.result = _
    rw [hjoined, List.map_append, List.map_cons]
  · obtain ⟨k, hk, rfl⟩ := List.mem_map.mp hresult
    have hkmem : k ∈ f.joined := by
      rw [hjoined]
      exact List.mem_append_left _ hk
    rw [hjoined, List.map_append, List.map_cons] at hdistinct
    have hne := (List.nodup_append'.mp hdistinct).2.2 (List.mem_map_of_mem hk)
    rw [hname k hkmem, Bool.not_eq_true', decide_eq_false_iff_not]
    exact fun heq => hne (heq ▸ List.mem_cons_self)

end FanOut

namespace GatherRun

section

variable {env : Environment} {backend : Option Backend} {request : GatherRequest} {host : Host}

/-- Nothing has failed when the workers are made. -/
theorem begun_failures (run : GatherRun env backend request host) : run.begun.failures = [] := by
  have hmade := run.made
  rw [ensureDirectories_settle] at hmade
  rw [← (Prod.mk.inj hmade).2]
  rfl

/-- **Every failure can be attributed.** In a run that puts its queries through PowerShell, whatever
the schedule, a failure of the report is one of a selected group: it is blamed on a task of the
group, on a phase of one of its captures or on one of its roots, or the group has crashed, and then
the failure has the name of the group and the group has no artifacts. The words of a failure begin
with its source, except for those about a root. -/
theorem failures_attributable (run : GatherRun env backend request host)
    (hbackend : run.context.backend ≠ .service) :
    ∀ failure ∈ run.ended.report.failures, ∃ group ∈ run.selected, failure.group = group.name ∧
      (group.Blames failure.source failure.kind ∨
        failure.source = group.name ∧ failure.kind = .unexpected ∧
          run.ended.report.group? group.name = some ⟨group.name, []⟩) ∧
      (failure.kind ≠ .traversal → (failure.source ++ ": " : Text) <+: failure.message) := by
  obtain ⟨hcatalogued, hnames, -⟩ := run.selected_ok
  have hinitial : FanOut.Recording run.context (fun group failure => failure.IsBlamedBy group)
      (FanOut.initial run.selected run.begun) := by
    refine ⟨fun w hw => ?_, fun j hj => nomatch hj⟩
    obtain ⟨group, hgroup, rfl⟩ := List.mem_map.mp hw
    exact ⟨fun _ hfailure => absurd hfailure List.not_mem_nil,
      Group.reports_gather (hcatalogued group hgroup) hbackend rfl⟩
  have hrecording := hinitial.of_steps run.steps
  have haccounts := (FanOut.consistent_of_steps run.steps).accounts run.joined
  intro failure hfailure
  obtain ⟨added, hadded, hparts⟩ := haccounts.failures
  rw [hadded, run.begun_failures, List.nil_append, hparts.perm_flatten.mem_iff,
    ← List.flatMap_def] at hfailure
  obtain ⟨j, hj, hfailure⟩ := List.mem_flatMap.mp hfailure
  have hselected : j.group ∈ run.selected :=
    haccounts.groups.mem_iff.mp (List.mem_map_of_mem hj)
  refine ⟨j.group, hselected, haccounts.owned j hj failure hfailure, ?_⟩
  rcases List.mem_append.mp hfailure with hreported | hcrash
  · have hblamed := hrecording.joined j hj failure hreported
    exact ⟨Or.inl hblamed.source, hblamed.message⟩
  · -- A failure that is recorded in joining is that of a crash.
    cases houtcome : j.outcome with
    | ok result =>
      unfold Joined.crash at hcrash
      rw [houtcome] at hcrash
      exact absurd hcrash List.not_mem_nil
    | error fault =>
      have hresult : j.result = ⟨j.group.name, []⟩ := (haccounts.crashed j hj fault houtcome).1
      unfold Joined.crash at hcrash
      rw [houtcome] at hcrash
      rw [List.mem_singleton.mp hcrash, ← hresult]
      exact ⟨Or.inr ⟨rfl, rfl, haccounts.group?_eq hnames hj⟩, fun _ => List.prefix_append _ _⟩

end

namespace Example

/-- A catalog of a group of tasks, a capture, a root that is missing, and a root that cannot even be
looked for. -/
def doomed : List UInt8 :=
  let group (name field : Text) (items : List Json) : Json :=
    .object [("name", .text name), (field, .array items)]
  let document : Json := .object [("groups", .array [
    group "A" "tasks" [task "process" (program "one" "a"),
      task "query" [("class", .text "C"), ("namespace", .text "n"), ("output", .text "q")]],
    group "T" "tasks" [task "capture" [("start", .object (program "wpr" "t")),
      ("stop", .object (program "wpr" "t"))]],
    group "L" "roots" [.text "gone"],
    group "N" "roots" [.text "\x00"]])]
  match Text.Utf8.encode document.write with
  | .ok octets => octets
  | .error _ => []

/-- A machine on which there is no program but one, which ends badly. -/
def hostile : Host :=
  machine doomed [] fun name =>
    if name = "one" then some fun _ => .completed ⟨false, [], [], [], 0, 3⟩ else none

def failuresOfHostile : List Failure :=
  let missing : Text := "wpr: failed to start: [Errno 2] No such file or directory: 'wpr'"
  [⟨"A", "one", .process, "one: exit status 3"⟩,
    ⟨"A", "C (n)", .query, "C (n): PowerShell not found: powershell.exe"⟩,
    ⟨"T", "wpr", .captureStart, missing⟩, ⟨"T", "wpr", .process, missing⟩,
    ⟨"L", "gone", .traversal, "gone: No such file or directory"⟩,
    ⟨"N", "N", .unexpected, "N: embedded null byte"⟩]

end Example

open GatherRun.Example

/-- Everything fails, each in its own way. -/
theorem failures_attributable_hostile :
    ∃ run : GatherRun (fun _ => none) none (request "s") hostile,
      run.context.backend ≠ .service ∧
        run.ended.report.failures = failuresOfHostile ∧
        ∀ failure ∈ run.ended.report.failures, ∃ group ∈ run.selected,
          failure.group = group.name ∧
            (group.Blames failure.source failure.kind ∨
              failure.source = group.name ∧ failure.kind = .unexpected ∧
                run.ended.report.group? group.name = some ⟨group.name, []⟩) ∧
            (failure.kind ≠ .traversal →
              (failure.source ++ ": " : Text) <+: failure.message) := by
  have hreport : ((request "s").report? (fun _ => none) none hostile).map RunReport.failures =
      some failuresOfHostile := by
    decide +kernel
  obtain ⟨report, hreport, hfailures⟩ := Option.map_eq_some_iff.mp hreport
  obtain ⟨run, rfl⟩ := exists_gatherRun_of_report hreport
  have hbackend : run.context.backend ≠ .service := nofun
  exact ⟨run, hbackend, hfailures, run.failures_attributable hbackend⟩

end GatherRun

end Diagnostics
