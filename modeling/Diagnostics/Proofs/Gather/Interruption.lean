import Diagnostics.Proofs.Gather.Alike
import Diagnostics.Proofs.Gather.Durations

/-!
# An interruption only shortens waits

A run can be interrupted beforehand, or by the user while a program is at work. `uninterrupted`
takes all of that away from a host: who interrupts, whether someone has, and what the record of
calls says about it. A wait that cannot be timed fails, unless the run has been interrupted. Nothing
else that a session answers depends on what is taken away, so taking it away before a piece of work
is taking it away after it, if the work makes no such wait. Two hosts that are the same but for
interruptions are therefore left the same but for interruptions, by any work of that kind and by any
schedule.
-/

set_option autoImplicit false

namespace Diagnostics

open Diagnostics.Action

/-- The same completion, during which nobody interrupts the run. -/
def Completion.uninterrupted (c : Completion) : Completion :=
  { c with cancels := false }

def Launch.uninterrupted : Launch → Launch
  | .refused e => .refused e
  | .completed c => .completed c.uninterrupted

/-- The same host, on which nobody has interrupted a run and nobody ever will. -/
def Host.uninterrupted (host : Host) : Host :=
  { host with
    programs := fun name => (host.programs name).map fun outcomes k => (outcomes k).uninterrupted
    cancelled := false
    calls := host.calls.map Call.uninterrupted }

def Session.uninterrupted (s : Session) : Session :=
  s.withHost s.host.uninterrupted

/-- Two hosts that differ at most in when, or whether, a run is interrupted, and in what the record
of calls says about that. -/
structure Host.SameButInterruptions (host host' : Host) : Prop where
  disk : host'.disk = host.disk
  programs : ∀ name, (host'.programs name).map (fun outcomes k => (outcomes k).uninterrupted) =
    (host.programs name).map fun outcomes k => (outcomes k).uninterrupted
  started : host'.started = host.started
  answers : host'.answers = host.answers
  asked : host'.asked = host.asked
  calls : host'.calls.map Call.uninterrupted = host.calls.map Call.uninterrupted
  platform : host'.platform = host.platform

theorem Host.sameButInterruptions_iff {host host' : Host} :
    host.SameButInterruptions host' ↔ host'.uninterrupted = host.uninterrupted := by
  unfold Host.uninterrupted
  rw [Host.mk.injEq]
  constructor
  · intro h
    exact ⟨h.disk, funext h.programs, h.started, h.answers, h.asked, rfl, h.calls, h.platform⟩
  · rintro ⟨hdisk, hprograms, hstarted, hanswers, hasked, -, hcalls, hplatform⟩
    exact ⟨hdisk, congrFun hprograms, hstarted, hanswers, hasked, hcalls, hplatform⟩

/-! ## What a host does -/

namespace Host

theorem note_uninterrupted (host : Host) (call : Call) :
    (host.note call).uninterrupted = host.uninterrupted.note call.uninterrupted := by
  unfold note uninterrupted
  rw [List.map_append, List.map_singleton]

theorem program?_uninterrupted (host : Host) (executable : Text) :
    host.uninterrupted.program? executable =
      (host.program? executable).map fun outcomes k => (outcomes k).uninterrupted := by
  unfold program?
  split
  · rfl
  · rfl

theorem launch?_uninterrupted (host : Host) (executable : Text) :
    host.uninterrupted.launch? executable =
      (host.launch? executable).map Launch.uninterrupted := by
  unfold launch?
  rw [program?_uninterrupted, Option.map_map, Option.map_map]
  rfl

/-- An interruption while a program is at work does not touch what the program does. -/
theorem perform_uninterrupted (host : Host) (argv : List Text) (timeout : Option Binary64)
    (redirect : Redirect) (c : Completion) :
    host.uninterrupted.perform argv timeout redirect c.uninterrupted =
      ((host.perform argv timeout redirect c).1,
        (host.perform argv timeout redirect c).2.uninterrupted) := by
  have hlate : timeout.any (· < c.uninterrupted.seconds) = timeout.any (· < c.seconds) := rfl
  unfold perform
  rw [hlate]
  dsimp only [Completion.uninterrupted, uninterrupted]
  split_ifs <;> rfl

theorem start_uninterrupted (host : Host) (argv : List Text) (timeout : Option Binary64)
    (redirect : Redirect) :
    host.uninterrupted.start argv timeout redirect =
      ((host.start argv timeout redirect).1,
        (host.start argv timeout redirect).2.uninterrupted) := by
  have hnote := host.note_uninterrupted (.run argv timeout redirect.channel)
  by_cases hwords : WordsHaveOctets argv
  · have hlimit : host.uninterrupted.limitError? timeout redirect =
        host.limitError? timeout redirect := by
      cases redirect <;> rfl
    have hcounted : { host.uninterrupted.note (.run argv timeout redirect.channel) with
          started := bump host.uninterrupted.started (argv.headD "") } =
        { host.note (.run argv timeout redirect.channel) with
          started := bump host.started (argv.headD "") }.uninterrupted :=
      congrArg (fun h : Host => { h with started := bump host.started (argv.headD "") }) hnote.symm
    rw [start_of_launch? _ _ _ hwords, start_of_launch? _ _ _ hwords, launch?_uninterrupted, hlimit,
      hcounted]
    cases host.launch? (argv.headD "") with
    | none => exact Prod.ext rfl hnote.symm
    | some launch =>
      cases launch with
      | refused e => rfl
      | completed c =>
        dsimp only [Option.map_some, Launch.uninterrupted]
        cases host.limitError? timeout redirect with
        | some e => rfl
        | none => exact perform_uninterrupted _ argv timeout redirect c
  · obtain ⟨fault, hfault⟩ := exists_argvFault? hwords
    rw [start_of_argvFault? _ _ _ hfault, start_of_argvFault? _ _ _ hfault]
    exact Prod.ext rfl hnote.symm

theorem ask_uninterrupted (host : Host) (className namespaceName : Text) :
    host.uninterrupted.ask className namespaceName =
      ((host.ask className namespaceName).1,
        (host.ask className namespaceName).2.uninterrupted) := by
  have hnote : host.uninterrupted.note (.query className namespaceName) =
      (host.note (.query className namespaceName)).uninterrupted :=
    (host.note_uninterrupted (.query className namespaceName)).symm
  unfold ask
  rw [hnote]
  have hanswers : host.uninterrupted.answers = host.answers := rfl
  have hasked : host.uninterrupted.asked = host.asked := rfl
  rw [hanswers, hasked]
  dsimp only
  split <;> rfl

/-- A wait that can be timed is made in any case, and recorded with its length. -/
theorem wait_uninterrupted {host : Host} {seconds : Binary64}
    (h : host.platform.CanWait seconds) :
    host.uninterrupted.wait seconds =
      ((host.wait seconds).1, (host.wait seconds).2.uninterrupted) := by
  have h' : host.uninterrupted.platform.CanWait seconds := h
  rw [wait_of_none (waitError?_eq_none_iff.mpr (Or.inr h)),
    wait_of_none (waitError?_eq_none_iff.mpr (Or.inr h')), note_uninterrupted]
  rfl

end Host

/-! ## What work does -/

/-- If a request is a wait, then for a time that can be timed. -/
def Request.IsTimed (platform : Platform) : Request → Prop
  | .wait seconds => platform.CanWait seconds
  | _ => True

/-- No other answer depends on an interruption. -/
theorem Session.answer_uninterrupted {s : Session} {r : Request}
    (hr : r.IsTimed s.host.platform) :
    s.uninterrupted.answer r = ((s.answer r).1, (s.answer r).2.uninterrupted) := by
  have hdisk : s.uninterrupted.host.disk = s.host.disk := rfl
  have hhost : s.uninterrupted.host = s.host.uninterrupted := rfl
  cases r with
  | openFile path =>
    dsimp only [answer]
    rw [hdisk]
    cases s.host.disk.openForWriting path <;> rfl
  | start argv timeout redirect =>
    dsimp only [answer]
    rw [hhost, Host.start_uninterrupted]
    rfl
  | query className namespaceName =>
    dsimp only [answer]
    rw [hhost, Host.ask_uninterrupted]
    rfl
  | wait seconds =>
    dsimp only [answer]
    rw [hhost, Host.wait_uninterrupted hr]
    rfl
  | closeFile place octets => rfl
  | ensureDirectories path => rfl
  | collect roots => rfl
  | record failure => rfl
  | recorded => rfl

/-- Two sessions on machines of this kind that are the same but for interruptions. -/
structure Session.SameButInterruptions (platform : Platform) (s s' : Session) : Prop where
  host : s.host.SameButInterruptions s'.host
  failures : s'.failures = s.failures
  platform : s.host.platform = platform

theorem Session.sameButInterruptions_iff {platform : Platform} {s s' : Session} :
    s.SameButInterruptions platform s' ↔
      s'.uninterrupted = s.uninterrupted ∧ s.host.platform = platform := by
  unfold uninterrupted withHost
  rw [Session.mk.injEq, ← Host.sameButInterruptions_iff]
  exact ⟨fun h => ⟨⟨h.host, h.failures⟩, h.platform⟩, fun ⟨⟨hhost, hfailures⟩, hplatform⟩ =>
    ⟨hhost, hfailures, hplatform⟩⟩

/-- Requests whose waits can be timed do not tell such sessions apart. -/
theorem Session.answers_sameButInterruptions (platform : Platform) :
    Session.Answers (Request.IsTimed platform) (SameButInterruptions platform) where
  answer := by
    intro s s' r hr h
    have hs : r.IsTimed s.host.platform := by rwa [h.platform]
    have hs' : r.IsTimed s'.host.platform := by rwa [h.host.platform, h.platform]
    obtain ⟨hsame, hplatform⟩ := sameButInterruptions_iff.mp h
    -- Both give the answer of the one that nobody interrupts.
    obtain ⟨hanswer, hleft⟩ : (s'.answer r).1 = (s.answer r).1 ∧
        (s'.answer r).2.uninterrupted = (s.answer r).2.uninterrupted := by
      rw [← Prod.mk.injEq, ← answer_uninterrupted hs, ← answer_uninterrupted hs', hsame]
    exact ⟨hanswer.symm,
      sameButInterruptions_iff.mpr ⟨hleft, (s.answer_platform r).trans hplatform⟩⟩
  record _ := trivial

/-! ## What a run asks for -/

section

variable {context : Context} {allowed : Request → Prop}

/-- Groups make the requests that each of them makes, and record. -/
theorem gatherGroups_guarantees (hrecord : ∀ failure, allowed (.record failure))
    {groups : List Group} (hgroups : ∀ group ∈ groups,
      (group.gather (context.forGroup group.name)).Guarantees (fun _ => True) allowed
        (fun _ _ => True) []) (past : List Failure) :
    (gatherGroups context groups).Guarantees (fun _ => True) allowed (fun _ _ => True) past := by
  induction groups generalizing past with
  | nil => trivial
  | cons group groups ih =>
    obtain ⟨hgroup, hothers⟩ := List.forall_mem_cons.mp hgroups
    unfold gatherGroups Group.gatherRecorded
    rw [guarantees_bind, guarantees_bind, guarantees_attempt]
    refine (hgroup.of_past past).mono fun past outcome _ => ?_
    have hrest : ∀ (result : GroupResult) (past : List Failure),
        (gatherGroups context groups >>= fun results =>
          (pure (result :: results) : Action (List GroupResult))).Guarantees (fun _ => True) allowed
            (fun _ _ => True) past := by
      intro result past
      rw [guarantees_bind]
      refine (ih hothers past).mono fun past outcome _ => ?_
      cases outcome <;> trivial
    cases outcome with
    | ok result => exact hrest result past
    | error fault => exact ⟨hrecord _, fun _ _ => hrest _ _⟩

/-- So does a run, once it has asked for the staging directory. -/
theorem orchestrate_guarantees (hrecord : ∀ failure, allowed (.record failure))
    (hrecorded : allowed .recorded) (hmakes : allowed (.ensureDirectories context.staging))
    {groups : List Group} {includeTrace : Bool} (maxWorkers : Option Int)
    (hgroups : ∀ group ∈ selectedGroups groups includeTrace,
      (group.gather (context.forGroup group.name)).Guarantees (fun _ => True) allowed
        (fun _ _ => True) []) :
    (orchestrate groups context includeTrace maxWorkers).Guarantees (fun _ => True) allowed
      (fun _ _ => True) [] := by
  have hreport : ∀ (results : List GroupResult) (past : List Failure),
      (recorded >>= fun failures =>
        (pure ⟨results, failures⟩ : Action RunReport)).Guarantees (fun _ => True) allowed
          (fun _ _ => True) past :=
    fun _ _ => ⟨hrecorded, fun _ _ => trivial⟩
  have hdirectories : (ensureDirectories context.staging).Guarantees (fun _ => True) allowed
      (fun _ _ => True) [] := ⟨hmakes, fun _ _ => trivial⟩
  unfold orchestrate
  rw [guarantees_bind]
  refine hdirectories.mono fun past outcome _ => ?_
  cases outcome with
  | error fault => trivial
  | ok _ =>
    dsimp only
    split_ifs
    · exact hreport [] past
    · trivial
    · rw [guarantees_bind]
      refine (gatherGroups_guarantees hrecord hgroups past).mono fun past outcome _ => ?_
      cases outcome with
      | error fault => trivial
      | ok results => exact hreport results past

/-- A group waits for what its tasks wait for, and if that can be timed, it makes no other wait. -/
theorem Group.gather_guarantees_isTimed {platform : Platform} {group : Group}
    (hwaits : ∀ seconds ∈ group.waits context, platform.CanWait seconds) :
    (group.gather (context.forGroup group.name)).Guarantees (fun _ => True)
      (Request.IsTimed platform) (fun _ _ => True) [] := by
  have hgather : (group.gather (context.forGroup group.name)).Guarantees (fun _ => True)
      (group.Admits (context.forGroup group.name) fun _ => True) group.Ends [] :=
    group.gather_guarantees (fun _ _ _ _ _ _ _ => trivial) rfl
  refine (hgather.weaken fun r hr => ?_).mono fun _ _ _ => trivial
  cases r with
  | wait seconds => exact hwaits seconds hr
  | _ => trivial

end

/-! ## What a request comes to -/

section

variable {host host' : Host}

theorem Settings.conclude_sameButInterruptions (settings : Settings) (strict : Bool)
    (report : RunReport) (h : host.SameButInterruptions host') :
    (settings.conclude strict report host').1 = (settings.conclude strict report host).1 ∧
      (settings.conclude strict report host).2.SameButInterruptions
        (settings.conclude strict report host').2 := by
  have hleft : ∀ disk : Disk,
      { host with disk := disk }.SameButInterruptions { host' with disk := disk } := fun disk =>
    ⟨rfl, h.programs, h.started, h.answers, h.asked, h.calls, h.platform⟩
  unfold conclude
  rw [h.disk]
  exact ⟨rfl, hleft _⟩

theorem gatherGroupsWith_sameButInterruptions {settings : Settings} {backend : Option Backend}
    {groups : List Group}
    (hwaits : ∀ seconds ∈ settings.waits backend groups, host.platform.CanWait seconds)
    (strict : Bool) (h : host.SameButInterruptions host') :
    (gatherGroupsWith settings backend strict groups host').1 =
        (gatherGroupsWith settings backend strict groups host).1 ∧
      (gatherGroupsWith settings backend strict groups host).2.SameButInterruptions
        (gatherGroupsWith settings backend strict groups host').2 := by
  have hguarantees : (orchestrate (overrideDwell settings.traceDwell groups)
      (settings.context backend) settings.includeTrace settings.maxWorkers).Guarantees
        (fun _ => True) (Request.IsTimed host.platform) (fun _ _ => True) [] :=
    orchestrate_guarantees (fun _ => trivial) trivial trivial _ fun group hgroup =>
      group.gather_guarantees_isTimed fun seconds hseconds =>
        hwaits seconds (List.mem_flatMap.mpr ⟨group, hgroup, hseconds⟩)
  have hsessions : Session.SameButInterruptions host.platform ⟨host, []⟩ ⟨host', []⟩ :=
    ⟨h, rfl, rfl⟩
  obtain ⟨houtcome, hleft⟩ := (Session.answers_sameButInterruptions host.platform).settle
    hguarantees hsessions
  rw [gatherGroupsWith_eq, gatherGroupsWith_eq]
  generalize (orchestrate (overrideDwell settings.traceDwell groups) (settings.context backend)
    settings.includeTrace settings.maxWorkers).settle ⟨host, []⟩ = settled at houtcome hleft
  generalize (orchestrate (overrideDwell settings.traceDwell groups) (settings.context backend)
    settings.includeTrace settings.maxWorkers).settle ⟨host', []⟩ = settled' at houtcome hleft
  obtain ⟨outcome, s⟩ := settled
  obtain ⟨outcome', s'⟩ := settled'
  obtain rfl : outcome = outcome' := houtcome
  cases outcome with
  | error fault => exact ⟨rfl, hleft.host⟩
  | ok report => exact settings.conclude_sameButInterruptions strict report hleft.host

end

/-- The machine can time whatever the request can make it wait for. -/
def GatherRequest.IsTimed (request : GatherRequest) (env : Environment) (backend : Option Backend)
    (host : Host) : Prop :=
  ∀ settings groups, request.plan env host.disk = .ok (settings, groups) →
    ∀ seconds ∈ settings.waits backend groups, host.platform.CanWait seconds

/-- **An interruption only shortens waits.** On two hosts that differ at most in when, or whether, a
run is interrupted, a request whose waits can all be timed has the same result and leaves the same
files; the same programs are started and the same queries put, and all waits are made, of the same
lengths. That holds for every schedule: to each run on one host there is one on the other that
reports the same. -/
theorem interruption_only_shortens_waits (env : Environment) (backend : Option Backend)
    (request : GatherRequest) {host host' : Host} (h : host.SameButInterruptions host')
    (htimed : request.IsTimed env backend host) :
    (gather env backend request host').1 = (gather env backend request host).1 ∧
      (gather env backend request host).2.SameButInterruptions
        (gather env backend request host').2 ∧
      ∀ run : GatherRun env backend request host, ∃ run' : GatherRun env backend request host',
        run'.ended.report = run.ended.report ∧ run'.outcome.1 = run.outcome.1 ∧
          run.outcome.2.SameButInterruptions run'.outcome.2 := by
  have hplan : request.plan env host'.disk = request.plan env host.disk := by rw [h.disk]
  obtain ⟨hresult, hleft⟩ : (gather env backend request host').1 =
      (gather env backend request host).1 ∧
        (gather env backend request host).2.SameButInterruptions
          (gather env backend request host').2 := by
    rw [gather_eq, gather_eq, hplan]
    cases hplanned : request.plan env host.disk with
    | error fault => exact ⟨rfl, h⟩
    | ok plan =>
      obtain ⟨settings, groups⟩ := plan
      obtain ⟨hsame, hleft⟩ := gatherGroupsWith_sameButInterruptions
        (htimed settings groups hplanned) request.strict h
      exact ⟨congrArg (Except.mapError GatherFault.run) hsame, hleft⟩
  refine ⟨hresult, hleft, fun run => ?_⟩
  obtain ⟨schedule, hfollows⟩ := run.exists_follows
  have hwaits := htimed run.settings run.groups run.planned
  obtain ⟨run', hsettings, -, hended⟩ := run.exists_alike
    (Session.answers_sameButInterruptions host.platform) ⟨h, rfl, rfl⟩ trivial
    (fun group hgroup => group.gather_guarantees_isTimed fun seconds hseconds =>
      hwaits seconds (List.mem_flatMap.mpr ⟨group, hgroup, hseconds⟩))
    (hplan.trans run.planned) rfl rfl rfl hfollows
  have hreport : run'.ended.report = run.ended.report :=
    (hended.report_eq hended.session.failures.symm).symm
  obtain ⟨houtcome, hleft⟩ := run.settings.conclude_sameButInterruptions request.strict
    run.ended.report hended.session.host
  refine ⟨run', hreport, ?_⟩
  unfold GatherRun.outcome
  rw [hsettings, hreport]
  exact ⟨houtcome, hleft⟩

namespace GatherRun.Example

/-- A catalog of one capture, with these fields besides its phases. -/
def traced (fields : List (Text × Json)) : List UInt8 :=
  catalog [("T", [task "capture" (("start", .object (program "wpr" "t")) ::
    ("stop", .object (program "wpr" "t")) :: fields)])]

/-- A machine whose user interrupts the run, or not, while the tracing program is at work. -/
def tracing (fields : List (Text × Json)) (cancels : Bool) : Host :=
  machine (traced fields) [] fun name =>
    if name = "wpr" then some fun _ => .completed ⟨cancels, [], [], [], 0, 0⟩ else none

theorem sameButInterruptions_tracing (fields : List (Text × Json)) :
    (tracing fields false).SameButInterruptions (tracing fields true) := by
  refine ⟨rfl, fun name => ?_, rfl, rfl, rfl, rfl, rfl⟩
  dsimp only [tracing, machine]
  split <;> rfl

/-- A dwell of more seconds than the clock holds. -/
def endless : List (Text × Json) :=
  [("dwell_seconds", .integer 10000000000)]

end GatherRun.Example

open GatherRun.Example

/-- A capture that is interrupted: its wait is cut short, and nothing else is different. -/
theorem interruption_only_shortens_waits_capture :
    (gather (fun _ => none) none (request "s") (tracing [] false)).2.calls =
        [.run ["wpr"] none .discard, .wait CaptureTask.defaultDwell false,
          .run ["wpr"] none .discard] ∧
      (gather (fun _ => none) none (request "s") (tracing [] true)).2.calls =
        [.run ["wpr"] none .discard, .wait CaptureTask.defaultDwell true,
          .run ["wpr"] none .discard] ∧
      (tracing [] false).SameButInterruptions (tracing [] true) ∧
      (request "s").IsTimed (fun _ => none) none (tracing [] false) ∧
      (gather (fun _ => none) none (request "s") (tracing [] true)).1 =
        (gather (fun _ => none) none (request "s") (tracing [] false)).1 ∧
      (gather (fun _ => none) none (request "s") (tracing [] true)).2.disk =
        (gather (fun _ => none) none (request "s") (tracing [] false)).2.disk := by
  have hsame := sameButInterruptions_tracing []
  have htimed : (request "s").IsTimed (fun _ => none) none (tracing [] false) := by
    intro settings groups hplan seconds hseconds
    have hwaits : ((request "s").plan (fun _ => none) (tracing [] false).disk).map
        (fun plan => plan.1.waits none plan.2) = .ok [CaptureTask.defaultDwell] := by
      decide +kernel
    rw [hplan] at hwaits
    have hdwell : seconds ∈ [CaptureTask.defaultDwell] := Except.ok.inj hwaits ▸ hseconds
    rw [List.mem_singleton.mp hdwell]
    decide +kernel
  obtain ⟨hresult, hleft, -⟩ :=
    interruption_only_shortens_waits (fun _ => none) none (request "s") hsame htimed
  exact ⟨by decide +kernel, by decide +kernel, hsame, htimed, hresult, hleft.disk⟩

/-- A capture that waits for longer than can be timed: it ends with its wait, and only if it is
interrupted is it stopped. -/
theorem interruption_saves_endless_capture :
    (tracing endless false).SameButInterruptions (tracing endless true) ∧
      (gather (fun _ => none) none (request "s") (tracing endless false)).2.calls =
        [.run ["wpr"] none .discard, .wait (Binary64.ofRatio false 10000000000 1) false] ∧
      (gather (fun _ => none) none (request "s") (tracing endless true)).2.calls =
        [.run ["wpr"] none .discard, .wait (Binary64.ofRatio false 10000000000 1) true,
          .run ["wpr"] none .discard] :=
  ⟨sameButInterruptions_tracing endless, by decide +kernel, by decide +kernel⟩

end Diagnostics
