import Diagnostics.Proofs.Gather.Frame
import Diagnostics.Proofs.Gather.Listing
import Diagnostics.Proofs.Task.Return

/-!
# What becomes of an artifact after its task has returned

Nobody writes to an artifact once its task has returned it: not the later tasks of its group, nor
other groups, nor the report. For each of them that is a matter of names. An accepted catalog uses
each output once, so it is enough that no other output is a spelling of the same file name, and that
the report does not bear it (`GatherRun.artifact_kept`).

As for the frame of a run, nothing may be in the staging directory once the run has made it; and an
artifact with the name of the report is lost to it.
-/

set_option autoImplicit false

namespace Diagnostics

open Diagnostics.Action Disk

namespace GatherRun

section

variable {env : Environment} {backend : Option Backend} {request : GatherRequest} {host : Host}
  {home : Location}

/-- No other output of the run that is opened spells the same file name. -/
def SpelledOnce (run : GatherRun env backend request host) (output : Text) : Prop :=
  ∀ group ∈ run.selected, ∀ task ∈ group.tasks, task.opens = true → ∀ name,
    Text.Utf8.encodeName task.output = .ok name → Text.Utf8.encodeName output = .ok name →
      task.output = output

variable (run : GatherRun env backend request host) {f : FanOut} {group : Group} {task : Task}

theorem mem_of_hasReturned (hf : run.Passes f) (hreturned : f.HasReturned run.context group task) :
    group ∈ run.selected ∧ task ∈ group.tasks := by
  obtain ⟨reported, rest, hw, earlier, later, -, hwork, -⟩ := hreturned
  constructor
  · exact (FanOut.consistent_of_steps hf.1).groups.mem_iff.mp
      (List.mem_append_left _ (List.mem_map_of_mem hw))
  · rw [Group.tasks_of_work hwork]
    exact List.mem_append_right _ List.mem_cons_self

/-- At each moment of a run, groups will write to what their tasks open. -/
theorem writesTo_passes (hempty : run.begun.host.disk.EmptyAt run.context.staging home)
    (hwrites : run.begun.host.WritesNothing) (hf : run.Passes f) :
    f.WritesTo run.begun.host run.context home Group.Opens := by
  have hinitial : (FanOut.initial run.selected run.begun).WritesTo run.begun.host run.context home
      Group.Opens :=
    FanOut.writesTo_initial hempty fun group hgroup => (run.selected_ok.1 group hgroup).writesTo
  exact (hinitial.of_steps hempty hwrites hf.1 fun _ _ (hfalse : False) => hfalse.elim).1

/-- **Nobody writes to an artifact that was returned.** From the moment on at which a task has
returned, the workers of its own group and those of all others leave the file of its output as it
is. -/
theorem agreeOn_of_hasReturned (hempty : run.begun.host.disk.EmptyAt run.context.staging home)
    (hwrites : run.begun.host.WritesNothing) (hf : run.Passes f)
    (hreturned : f.HasReturned run.context group task) (honce : run.SpelledOnce task.output) :
    AgreeOn (fun name => Text.Utf8.encodeName task.output = .ok name) home
      run.ended.session.host.disk f.session.host.disk := by
  obtain ⟨hcatalogued, hnames, houtputs⟩ := run.selected_ok
  obtain ⟨hgroup, htask⟩ := run.mem_of_hasReturned hf hreturned
  obtain ⟨reported, rest, hw, earlier, later, artifacts, hwork, rfl⟩ := hreturned
  have hconsistent := FanOut.consistent_of_steps hf.1
  have htasks : group.tasks = earlier ++ task :: later := Group.tasks_of_work hwork
  have hfresh : task.output ∉ later.map Task.output := by
    have hdistinct : (group.tasks.map Task.output).Nodup :=
      (List.nodup_flatMap.mp houtputs).1 group hgroup
    rw [htasks, List.map_append, List.map_cons] at hdistinct
    exact (List.nodup_cons.mp hdistinct.of_append_right).1
  have hphase := run.writesTo_passes hempty hwrites hf
  have hnow : f.WritesTo run.begun.host run.context home
      fun _ name => ¬ Text.Utf8.encodeName task.output = .ok name := by
    refine ⟨hphase.session, fun w hw' => ?_⟩
    by_cases hsame : w.group = group
    · -- The worker of the group has the later tasks left, whose outputs are others.
      obtain rfl := hconsistent.eq_of_group_eq hnames hw' hw hsame
      have hlater : ∀ other ∈ later, other.WritesTo
          fun name => ¬ Text.Utf8.encodeName task.output = .ok name := by
        intro other hother
        have hmem : other ∈ group.tasks := by
          rw [htasks]
          exact List.mem_append_right _ (List.mem_cons_of_mem _ hother)
        refine ⟨(hcatalogued group hgroup).isBareName _ (List.mem_map_of_mem hmem),
          fun hopens name hname hspelled => ?_⟩
        have heq := honce group hgroup other hmem hopens name hname hspelled
        exact hfresh (heq ▸ List.mem_map_of_mem hother)
      show (group.remaining _ _ later).Guarantees _ _ _ reported
      unfold Group.remaining
      rw [guarantees_bind]
      refine (@runAll_writesTo _ (run.context.forGroup group.name) home _ hempty later hlater
        reported).mono fun _ outcome _ => ?_
      cases outcome
      all_goals trivial
    · -- Another group has other outputs.
      refine (hphase.workers w hw').weaken fun r hr => hr.mono ?_
      rintro name ⟨other, hother, hopens, hname⟩ hspelled
      have hselected : w.group ∈ run.selected :=
        hconsistent.groups.mem_iff.mp (List.mem_append_left _ (List.mem_map_of_mem hw'))
      have heq := honce w.group hselected other hother hopens name hname hspelled
      exact hsame (eq_of_mem_outputs houtputs hselected hgroup (List.mem_map_of_mem hother)
        (heq ▸ List.mem_map_of_mem htask))
  exact (hnow.of_steps hempty hwrites hf.2 fun _ _ hspared => not_not.mpr hspared).2

/-- What a task that opens its artifact has returned is a file in the end. -/
theorem isFile_of_hasReturned (hground : host.disk.IsGrounded) (hf : run.Passes f)
    (hreturned : f.HasReturned run.context group task) (hopens : task.opens = true) :
    run.outcome.2.disk.isFile (run.context.artifactPath task.output) = true := by
  obtain ⟨hcatalogued, hnames, houtputs⟩ := run.selected_ok
  obtain ⟨hgroup, htask⟩ := run.mem_of_hasReturned hf hreturned
  obtain ⟨j, hj, rfl, result, hresult, hlisted⟩ := hreturned.exists_joined
    (FanOut.consistent_of_steps hf.1) hnames hf.2 (FanOut.consistent_of_steps run.steps) run.joined
  obtain ⟨-, -, -, earlier, later, -, hwork, -⟩ := hreturned
  obtain ⟨other, hother, hpath, hfile⟩ :=
    run.lists_ended hground j hj _ hwork result hresult _ hlisted
  rw [← Group.tasks_of_work hwork] at hother
  -- The path is that of one task only.
  have hbare := (hcatalogued j.group hgroup).isBareName
  have houtput : task.output = other.output :=
    (hbare _ (List.mem_map_of_mem htask)).eq_of_join_eq (hbare _ (List.mem_map_of_mem hother)) hpath
  obtain rfl : task = other :=
    List.inj_on_of_nodup_map ((List.nodup_flatMap.mp houtputs).1 _ hgroup) htask hother houtput
  exact (run.extends_outcome hground ⟨run.steps, .refl⟩).isFile (hfile hopens)

/-- **Artifacts are kept.** Suppose that programs write no files by themselves and nothing is in the
staging directory once it is made. Each path that is listed for a group of tasks was returned by one
of them at some moment of the run. And whenever a task that opens its artifact has just returned it,
the artifact has the content that it has in the end, if its output is spelled once and is not the
name of the report. -/
theorem artifact_kept (hground : host.disk.IsGrounded)
    (hstages : (⟨host, []⟩ : Session).StagesEmpty run.context home)
    (hwrites : host.WritesNothing) {result : GatherResult} (h : run.outcome.1 = .ok result) :
    (∀ listed ∈ result.report.groups, ∃ group ∈ run.selected, group.name = listed.name ∧
      ∀ tasks, group.work = .tasks tasks → ∀ path ∈ listed.artifacts, ∃ task f,
        path = run.context.artifactPath task.output ∧ run.Passes f ∧
          f.HasReturned run.context group task) ∧
      ∀ group task f, run.Passes f → f.HasReturned run.context group task → task.opens = true →
        run.SpelledOnce task.output → task.output ≠ RunReport.fileName →
          ∃ octets,
            f.session.host.disk.read (run.context.artifactPath task.output) = .ok octets ∧
              run.outcome.2.disk.read (run.context.artifactPath task.output) = .ok octets := by
  constructor
  · intro listed hlisted
    rw [run.report_eq h] at hlisted
    obtain ⟨j, hj, rfl, hselected, hname⟩ := run.exists_joined hlisted
    refine ⟨j.group, hselected, hname, fun tasks hwork path hpath => ?_⟩
    obtain ⟨ended, houtcome, hpath⟩ := FanOut.ok_of_mem_result hpath
    obtain ⟨task, f, hartifact, hbefore, hafter, hreturned⟩ :=
      FanOut.exists_return run.selected_ok.1 run.steps hj houtcome hwork hpath
    exact ⟨task, f, hartifact, ⟨hbefore, hafter⟩, hreturned⟩
  · intro group task f hf hreturned hopens honce hreport
    have hempty := run.emptyAt_begun hstages
    have hnothing := run.writesNothing_begun hwrites
    obtain ⟨hgroup, htask⟩ := run.mem_of_hasReturned hf hreturned
    have hbare : IsBareName task.output :=
      (run.selected_ok.1 group hgroup).isBareName _ (List.mem_map_of_mem htask)
    -- Neither the report nor any worker has written to the file since.
    obtain ⟨hleft, hspares⟩ := run.staged_outcome hempty hnothing
    have hagree : AgreeOn (fun name => Text.Utf8.encodeName task.output = .ok name) home
        run.outcome.2.disk f.session.host.disk :=
      (hspares.mono fun _ hname hspelled =>
        hreport (RunReport.eq_fileName_of_encodeName hname hspelled)).trans
        (run.agreeOn_of_hasReturned hempty hnothing hf hreturned honce)
    obtain ⟨hsame, -⟩ := (keepsTo_read hempty hbare fun _ hname => hname).agree hempty hleft
      (run.writesTo_passes hempty hnothing hf).session.disk hagree
    obtain ⟨octets, hoctets⟩ :=
      exists_read_of_isFile (run.isFile_of_hasReturned hground hf hreturned hopens)
    exact ⟨octets, hsame.symm.trans hoctets, hoctets⟩

/-- A group that runs alone comes to the moment at which its first task has returned, with what that
task leaves. -/
theorem exists_first_return {later : List Task} {t : Session} (hselected : run.selected = [group])
    (hwork : group.work = .tasks (task :: later))
    (hfirst : (task.runRecorded (run.context.forGroup group.name)).settle run.begun =
      (.ok (some (run.context.artifactPath task.output)), t)) :
    ∃ f, run.Passes f ∧ f.HasReturned run.context group task ∧ f.session = t := by
  have hlimit : 0 < run.settings.workerLimit run.groups := by
    refine Settings.workerLimit_pos (GatherRequest.plan_ok run.planned).2.1 ?_
    show run.selected ≠ []
    rw [hselected]
    exact List.cons_ne_nil _ _
  have hbegin : FanOut.Step run.context (run.settings.workerLimit run.groups)
      (FanOut.initial run.selected run.begun)
      ⟨run.begun, [.running group [] (group.gather (run.context.forGroup group.name))], []⟩ := by
    rw [hselected]
    exact @FanOut.Step.begin _ _ run.begun [] [] [] group hlimit
  rw [Group.gather_eq_remaining hwork, Group.remaining_cons] at hbegin
  obtain ⟨reported, hreturn⟩ := @FanOut.steps_settle_bind run.context
    (run.settings.workerLimit run.groups) _ [] [] [] group _
    (fun path => group.remaining _ ([] ++ path.toList) later) _ _ [] _ hfirst
  have hsteps := Relation.ReflTransGen.head hbegin hreturn
  refine ⟨_, ⟨hsteps, ?_⟩, ⟨reported, _, List.mem_cons_self, [], later, [], hwork, rfl⟩, rfl⟩
  have hended := run.steps
  change FanOut.Steps run.context _ (FanOut.initial run.selected run.begun) _ at hended
  rw [hselected] at hsteps hended
  exact FanOut.steps_of_steps_of_one hsteps hended run.joined

end

namespace Example

/-- A task whose program prints one octet. -/
def printTask (output : Text) : Task :=
  .process ⟨"one", "", output, false, none⟩

/-- A task whose program is not there. -/
def brokenTask (output : Text) : Task :=
  .process ⟨"two", "", output, false, none⟩

def single (tasks : List Task) : Group :=
  ⟨"A", false, .tasks tasks⟩

/-- A catalog of one group and two tasks, of which the second comes to nothing. -/
def contested (first second : Text) : List UInt8 :=
  catalog [("A", [task "process" (program "one" first), task "process" (program "two" second)])]

/-- On this machine the name of the second artifact is that of a link to the first. -/
def crossed : Host :=
  machine (contested "a" "b") [([0x62], .link [0x61])] (printing "one" 0x31)

/-- A catalog in which `q` and `z` are written as escapes: of a letter, and of two halves of
surrogate pairs that stand for its octets in names of files. -/
def escaped (octets : List UInt8) : List UInt8 :=
  octets.flatMap fun octet =>
    if octet = 0x71 then [0x5C, 0x75, 0x30, 0x30, 0x65, 0x39]
    else if octet = 0x7A then
      [0x5C, 0x75, 0x64, 0x63, 0x63, 0x33, 0x5C, 0x75, 0x64, 0x63, 0x61, 0x39]
    else [octet]

/-- On this machine the names of both artifacts are spellings of one file name. -/
def misspelled : Host :=
  machine (escaped (contested "q" "z")) [] (printing "one" 0x31)

def stagedAt (staging : Text) : Context :=
  ⟨Path.ofText staging, .service, "", 3, 0⟩

/-- A task returns an artifact with the octet that its program prints, and in the end the artifact
cannot be read as that. -/
def Loses (host : Host) (staging : Text) (group : Group) (task : Task) : Prop :=
  ∃ (run : GatherRun (fun _ => none) (some .service) (request staging) host)
    (result : GatherResult) (f : FanOut),
    run.outcome.1 = .ok result ∧ run.Passes f ∧ f.HasReturned run.context group task ∧
      f.session.host.disk.read (run.context.artifactPath task.output) = .ok [0x31] ∧
      run.outcome.2.disk.read (run.context.artifactPath task.output) ≠ .ok [0x31]

/-- Whether the first task of a group that runs alone loses its artifact can be computed. -/
theorem loses_of_settle {host : Host} {staging : Text} {task : Task} {later : List Task}
    (hok : (gather (fun _ => none) (some .service) (request staging) host).1.isOk = true)
    (hplan : ((request staging).plan (fun _ => none) host.disk).toOption.map
      (fun plan => (plan.1.selected plan.2, plan.1.context (some .service))) =
        some ([single (task :: later)], stagedAt staging))
    (hreturn : ((task.runRecorded ((stagedAt staging).forGroup "A")).settle
      ((⟨host, []⟩ : Session).prepared (stagedAt staging))).1 =
        .ok (some ((stagedAt staging).artifactPath task.output)))
    (hread : ((task.runRecorded ((stagedAt staging).forGroup "A")).settle
      ((⟨host, []⟩ : Session).prepared (stagedAt staging))).2.host.disk.read
        ((stagedAt staging).artifactPath task.output) = .ok [0x31])
    (hlost : (gather (fun _ => none) (some .service) (request staging) host).2.disk.read
      ((stagedAt staging).artifactPath task.output) ≠ .ok [0x31]) :
    Loses host staging (single (task :: later)) task := by
  obtain ⟨run, result, -, hresult, hleft⟩ := exists_gatherRun_of_isOk hok
  rw [run.planned] at hplan
  have hselected : run.selected = [single (task :: later)] :=
    congrArg Prod.fst (Option.some.inj hplan)
  have hcontext : run.context = stagedAt staging := congrArg Prod.snd (Option.some.inj hplan)
  have hbegun : (⟨host, []⟩ : Session).prepared (stagedAt staging) = run.begun := by
    rw [← hcontext]
    exact run.prepared_eq
  rw [hbegun] at hreturn hread
  obtain ⟨f, hf, hreturned, hsession⟩ := run.exists_first_return hselected rfl
    (Prod.ext (by rw [hcontext]; exact hreturn) rfl)
  refine ⟨run, result, f, hresult, hf, hreturned, ?_, ?_⟩
  · rw [hsession, hcontext]
    exact hread
  · rw [hleft, hcontext]
    exact hlost

end Example

open GatherRun.Example

/-- The one artifact of a run is returned with the octet that its program prints, and keeps it. -/
theorem artifact_kept_plain :
    ∃ (run : GatherRun (fun _ => none) none (request "s") plain) (f : FanOut),
      run.Passes f ∧ f.HasReturned run.context (single [printTask "a"]) (printTask "a") ∧
        f.session.host.disk.read (Path.ofText "s/a") = .ok [0x31] ∧
        run.outcome.2.disk.read (Path.ofText "s/a") = .ok [0x31] := by
  obtain ⟨run, result, hgather, hresult, hleft⟩ :=
    @exists_gatherRun_of_isOk (fun _ => none) none (request "s") plain (by decide +kernel)
  obtain ⟨hreturned, hkept⟩ := run.artifact_kept ⟨_, rfl⟩ (stagesEmpty_plain run)
    (writesNothing_printing _ _ _ _) hresult
  have hselected : run.selected = [single [printTask "a"]] :=
    run.selected_eq (by decide +kernel)
  have hartifact : run.context.artifactPath "a" = Path.ofText "s/a" := by
    unfold Context.artifactPath
    rw [show run.context.staging = Path.ofText "s" from run.staging_eq rfl]
    decide +kernel
  have hlisted : (gather (fun _ => none) none (request "s") plain).1.map GatherResult.report =
      .ok ⟨[⟨"A", [Path.ofText "s/a"]⟩], []⟩ := by
    decide +kernel
  rw [hgather] at hlisted
  -- The artifact is listed, so there is a moment at which it was returned.
  obtain ⟨group, hgroup, -, hmoment⟩ := hreturned ⟨"A", [Path.ofText "s/a"]⟩ (by
    rw [show result.report = _ from Except.ok.inj hlisted]
    exact List.mem_cons_self)
  rw [hselected, List.mem_singleton] at hgroup
  subst hgroup
  obtain ⟨task, f, -, hf, htask⟩ := hmoment _ rfl _ List.mem_cons_self
  obtain rfl : task = printTask "a" := List.mem_singleton.mp (run.mem_of_hasReturned hf htask).2
  have honce : run.SpelledOnce (printTask "a").output := by
    intro group hgroup other hother _ _ _ _
    rw [hselected, List.mem_singleton] at hgroup
    subst hgroup
    rw [List.mem_singleton.mp hother]
  obtain ⟨octets, hnow, hend⟩ := hkept _ _ f hf htask rfl honce (by decide +kernel)
  have hfinal : run.outcome.2.disk.read (Path.ofText "s/a") = .ok [0x31] := by
    rw [hleft]
    decide +kernel
  have hpath : run.context.artifactPath (printTask "a").output = Path.ofText "s/a" := hartifact
  rw [hpath] at hnow hend
  exact ⟨run, f, hf, htask, hnow.trans (hend.symm.trans hfinal), hfinal⟩

/-- Artifacts that are lost. In the first case nothing stands where the staging directory is to be,
but making the first part of its path makes the whole path lead to a directory in which the second
artifact's name is that of a link to the first; in the second, the two names are spellings of one
file name. -/
theorem artifact_lost :
    (crossed.disk.IsGrounded ∧ crossed.WritesNothing ∧
      crossed.disk.locate ⟨true, false⟩ (Path.ofText "new/..") =
        .error (refusal .noEntry (Path.ofText "new/..")) ∧
      Loses crossed "new/.." (single [printTask "a", brokenTask "b"]) (printTask "a")) ∧
    (misspelled.disk.IsGrounded ∧ misspelled.WritesNothing ∧
      misspelled.disk.locate ⟨true, false⟩ (Path.ofText "s") = .ok (.vacant [[0x73]]) ∧
      Loses misspelled "s"
        (single [printTask FanOut.Example.letter, brokenTask FanOut.Example.halves])
        (printTask FanOut.Example.letter)) := by
  refine ⟨⟨⟨_, rfl⟩, writesNothing_printing _ _ _ _, by decide +kernel, ?_⟩,
    ⟨⟨_, rfl⟩, writesNothing_printing _ _ _ _, by decide +kernel, ?_⟩⟩
  · exact loses_of_settle (by decide +kernel) (by decide +kernel) (by decide +kernel)
      (by decide +kernel) (by decide +kernel)
  · exact loses_of_settle (by decide +kernel) (by decide +kernel) (by decide +kernel)
      (by decide +kernel) (by decide +kernel)

/-- An artifact with the name of the report is lost to it. -/
theorem artifact_lost_to_report :
    Loses (machine (catalog [("A", [task "process" (program "one" RunReport.fileName)])]) []
      (printing "one" 0x31)) "s" (single [printTask RunReport.fileName])
      (printTask RunReport.fileName) :=
  loses_of_settle (by decide +kernel) (by decide +kernel) (by decide +kernel) (by decide +kernel)
    (by decide +kernel)

end GatherRun

end Diagnostics
