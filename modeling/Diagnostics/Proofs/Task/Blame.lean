import Diagnostics.Proofs.Guarantee
import Diagnostics.Proofs.Task.Attempts
import Diagnostics.Proofs.Task.Start

/-!
# The errors that a task ends with

An error of a task names the task by its label, and so its words begin. That is not in the type: a
`TaskError` can name anything, and most of the work of a task does not end with one. A request that
is refused ends with a fault of the operating system, and it is the task that makes an error of its
own out of it. `Action.Reports` says of a piece of work what it records and which errors it ends
with, whatever its requests are answered with, and it goes along with sequencing; so what a task
reports is read off its parts, down to the requests.

A capture is the one kind of task that records a failure before it ends: that of its start phase.
-/

set_option autoImplicit false

namespace Diagnostics

open Diagnostics.Action

/-- The failures that a request records are such. -/
def Request.Records (P : Failure → Prop) (r : Request) : Prop :=
  ∀ failure ∈ r.failures, P failure

theorem Request.records_of_silent {P : Failure → Prop} {r : Request} (h : r.failures = []) :
    r.Records P := by
  intro failure hfailure
  rw [h] at hfailure
  exact absurd hfailure List.not_mem_nil

/-- An error that a task with a label ends with, of one of these classes. -/
def TaskError.IsOf (label : Text) (kinds : List FailureKind) (e : TaskError) : Prop :=
  ∃ cause, e = .failed label cause ∧ cause.kind ∈ kinds

theorem TaskError.IsOf.mono {label : Text} {kinds kinds' : List FailureKind} {e : TaskError}
    (h : e.IsOf label kinds) (hkinds : kinds ⊆ kinds') : e.IsOf label kinds' := by
  obtain ⟨cause, rfl, hkind⟩ := h
  exact ⟨cause, rfl, hkinds hkind⟩

theorem TaskError.IsOf.source_eq {label : Text} {kinds : List FailureKind} {e : TaskError}
    (h : e.IsOf label kinds) : e.source = label := by
  obtain ⟨cause, rfl, -⟩ := h
  rfl

theorem TaskError.IsOf.kind_mem {label : Text} {kinds : List FailureKind} {e : TaskError}
    (h : e.IsOf label kinds) : e.kind ∈ kinds := by
  obtain ⟨cause, rfl, hkind⟩ := h
  exact hkind

/-- The words of an error begin with the label. -/
theorem TaskError.IsOf.message_prefix {label : Text} {kinds : List FailureKind} {e : TaskError}
    (h : e.IsOf label kinds) : (label ++ ": " : Text) <+: e.message := by
  obtain ⟨cause, rfl, -⟩ := h
  exact List.prefix_append _ _

namespace Action

variable {α β : Type} {records : Failure → Prop} {ends ends' : TaskError → Prop}

/-- Whatever its requests are answered with, the work records only such failures, and an error of a
task that it ends with is such a one. -/
def Reports (records : Failure → Prop) (ends : TaskError → Prop) (work : Action α) : Prop :=
  ∀ past, work.Guarantees (fun _ => True) (Request.Records records)
    (fun _ outcome => ∀ e, outcome = .error (.task e) → ends e) past

theorem reports_pure (a : α) : (pure a : Action α).Reports records ends :=
  fun _ _ h => nomatch h

theorem reports_throw_task {e : TaskError} (h : ends e) :
    (throw (.task e) : Action α).Reports records ends := by
  rintro _ _ ⟨⟩
  exact h

/-- A fault that is no error of a task. -/
theorem reports_throw {fault : Fault} (h : ∀ e, fault ≠ .task e) :
    (throw fault : Action α).Reports records ends :=
  fun _ e he => absurd (Except.error.inj he) (h e)

/-- What was recorded before does not matter. -/
theorem reports_of_guarantees {work : Action α} {past : List Failure}
    (h : work.Guarantees (fun _ => True) (Request.Records records)
      (fun _ outcome => ∀ e, outcome = .error (.task e) → ends e) past) :
    work.Reports records ends := by
  induction work generalizing past with
  | done outcome => exact fun _ => h
  | request r next ih => exact fun past => ⟨h.1, fun s hs => ih _ (h.2 s hs) _⟩

theorem reports_request_iff {r : Request} {next : r.Answer → Action α} :
    (Action.request r next).Reports records ends ↔
      r.Records records ∧ ∀ s : Session, (next (s.answer r).1).Reports records ends :=
  ⟨fun h => ⟨(h []).1, fun s => reports_of_guarantees ((h []).2 s trivial)⟩,
    fun h _ => ⟨h.1, fun s _ => h.2 s _⟩⟩

theorem reports_request {r : Request} {next : r.Answer → Action α} (hr : r.Records records)
    (h : ∀ s : Session, (next (s.answer r).1).Reports records ends) :
    (Action.request r next).Reports records ends :=
  reports_request_iff.mpr ⟨hr, h⟩

theorem Reports.mono {work : Action α} (h : work.Reports records ends)
    (hends : ∀ e, ends e → ends' e) : work.Reports records ends' :=
  fun past => (h past).mono fun _ _ houtcome e he => hends e (houtcome e he)

theorem Reports.bind {work : Action α} {after : α → Action β} (h : work.Reports records ends)
    (hafter : ∀ a, (after a).Reports records ends) : (work >>= after).Reports records ends := by
  intro past
  rw [guarantees_bind]
  refine (h past).mono fun past outcome houtcome => ?_
  cases outcome with
  | ok a => exact hafter a past
  | error fault => exact fun e he => houtcome e (congrArg Except.error (Except.error.inj he))

/-- A fault that is caught is no end; what follows knows of it what the work has said. -/
theorem Reports.attempt_bind {work : Action α} {after : Except Fault α → Action β}
    (h : work.Reports records ends)
    (hafter : ∀ outcome, (∀ e, outcome = .error (.task e) → ends e) →
      (after outcome).Reports records ends') :
    (work.attempt >>= after).Reports records ends' := by
  intro past
  rw [guarantees_bind, guarantees_attempt]
  exact (h past).mono fun past outcome houtcome => hafter outcome houtcome past

end Action

/-! ## Requests end with faults of the machine -/

section

variable {records : Failure → Prop}

theorem DiskError.toFault_ne_task (error : DiskError) (e : TaskError) :
    error.toFault ≠ .task e := by
  cases error <;> exact nofun

theorem Host.start_ne_task (host : Host) (argv : List Text) (timeout : Option Binary64)
    (redirect : Redirect) (e : TaskError) :
    (host.start argv timeout redirect).1 ≠ .error (.task e) := by
  rcases host.start_fst_cases timeout redirect argv with
    ⟨ending, h⟩ | ⟨fault, h⟩ | ⟨fault, hfault, h⟩ | ⟨error, -, h⟩
  case inr.inr.inl =>
    rw [h]
    rcases Host.argvFault?_cases hfault with ⟨error, rfl⟩ | rfl
    · exact nofun
    · exact nofun
  all_goals
    rw [h]
    exact nofun

theorem reports_openFile (path : Path) :
    (openFile path).Reports records fun _ => False := by
  refine reports_request (Request.records_of_silent rfl) fun s past e he => ?_
  unfold Session.answer at he
  dsimp only at he
  split at he
  · cases he
  · rename_i error _
    exact error.toFault_ne_task e (Except.error.inj he)

theorem reports_start (argv : List Text) (timeout : Option Binary64) (redirect : Redirect) :
    (start argv timeout redirect).Reports records fun _ => False :=
  reports_request (Request.records_of_silent rfl) fun s _ e he =>
    s.host.start_ne_task argv timeout redirect e he

theorem reports_wait (seconds : Binary64) : (wait seconds).Reports records fun _ => False :=
  reports_request (Request.records_of_silent rfl) fun s _ e he => by
    change (s.host.wait seconds).1 = _ at he
    unfold Host.wait at he
    dsimp only at he
    split at he
    · cases he
    · cases he

/-- PowerShell is a program, so no query through it ends with an error of a task. -/
theorem reports_ask {backend : Backend} (h : backend ≠ .service) (className namespaceName : Text) :
    (backend.ask className namespaceName).Reports records fun _ => False := by
  cases backend with
  | service => exact absurd rfl h
  | cim powershell timeout =>
    show (Cim.ask powershell timeout className namespaceName).Reports _ _
    unfold Cim.ask
    refine (reports_start _ _ _).attempt_bind fun outcome houtcome => ?_
    rcases outcome with (e | _ | fault | _ | _ | _ | _ | _) | (code | _)
    case error.task => exact (houtcome e rfl).elim
    case error.os =>
      dsimp only
      split
      · exact reports_throw nofun
      · exact reports_throw nofun
    case ok.exited =>
      dsimp only
      split
      · exact reports_pure _
      · exact reports_throw nofun
    all_goals exact reports_throw nofun

/-! ## Tasks make errors of their own -/

/-- The classes of a program task's errors. An artifact that the program writes itself is not
opened, so there it cannot fail. -/
def ProcessTask.kinds (task : ProcessTask) : List FailureKind :=
  if task.ownFile then [.process] else [.io, .process]

theorem reports_openArtifact (label : Text) (path : Path) :
    (openArtifact label path).Reports records (TaskError.IsOf label [.io]) := by
  refine (reports_openFile path).attempt_bind fun outcome houtcome => ?_
  rcases outcome with (e | _ | fault | _ | _ | _ | _ | _) | place
  case error.task => exact (houtcome e rfl).elim
  case error.os => exact reports_throw_task ⟨.notCreated path fault, rfl, List.mem_cons_self⟩
  case ok => exact reports_pure place
  all_goals exact reports_throw nofun

theorem reports_writeArtifact (label : Text) (path : Path) (place : Location)
    (texts : List Text) :
    (writeArtifact place texts (notWritten label path)).Reports records
      (TaskError.IsOf label [.io]) := by
  unfold writeArtifact
  refine reports_request (Request.records_of_silent rfl) fun s => ?_
  split
  · split
    · exact reports_throw_task ⟨.notWritten path _, rfl, List.mem_cons_self⟩
    · exact reports_throw nofun
  · split
    · exact reports_throw nofun
    · exact reports_pure ()

theorem ProcessTask.reports_execute (task : ProcessTask) (argv : List Text) (redirect : Redirect) :
    (task.execute argv redirect).Reports records (TaskError.IsOf task.label [.process]) := by
  have hprocess : ∀ cause : TaskCause, cause.kind = .process →
      TaskError.IsOf task.label [.process] (.failed task.label cause) :=
    fun cause h => ⟨cause, rfl, List.mem_singleton.mpr h⟩
  refine (reports_start _ _ _).attempt_bind fun outcome houtcome => ?_
  rcases outcome with (e | _ | fault | _ | _ | _ | _ | _) | (code | _)
  case error.task => exact (houtcome e rfl).elim
  case error.os => exact reports_throw_task (hprocess (.notStarted fault) rfl)
  case ok.timedOut => exact reports_throw_task (hprocess (.timedOut _) rfl)
  case ok.exited =>
    dsimp only
    split
    · exact reports_pure ()
    · exact reports_throw_task (hprocess (.exitStatus code) rfl)
  all_goals exact reports_throw nofun

theorem ProcessTask.reports_run (task : ProcessTask) (context : Context) :
    (task.run context).Reports records (TaskError.IsOf task.label task.kinds) := by
  unfold run kinds
  dsimp only
  cases task.ownFile with
  | true =>
    rw [if_pos rfl, if_pos rfl]
    exact (task.reports_execute _ _).bind fun _ => reports_pure _
  | false =>
    rw [if_neg Bool.false_ne_true, if_neg Bool.false_ne_true]
    refine ((reports_openArtifact task.label _).mono fun e h => h.mono (by decide)).bind
      fun place => ?_
    exact ((task.reports_execute _ _).mono fun e h => h.mono (by decide)).bind
      fun _ => reports_pure _

namespace QueryTask

variable {context : Context}

/-- Only the last attempt at a query makes an error out of its failure. -/
theorem reports_askAgain (task : QueryTask) (h : context.backend ≠ .service) (retries : Nat) :
    (task.askAgain context retries).Reports records (TaskError.IsOf task.label [.query]) := by
  induction retries with
  | zero =>
    rw [askAgain_zero]
    refine (reports_ask h _ _).attempt_bind fun outcome houtcome => ?_
    cases outcome with
    | ok text => exact reports_pure text
    | error fault =>
      show (throw (task.giveUp fault) : Action Text).Reports _ _
      unfold giveUp
      split
      · exact reports_throw_task ⟨.unanswered _, rfl, List.mem_cons_self⟩
      · exact reports_throw fun e he => houtcome e (congrArg Except.error he)
  | succ retries ih =>
    have hpause : context.pause.Reports records (TaskError.IsOf task.label [.query]) := by
      unfold Context.pause
      split
      · exact (reports_wait _).mono fun _ h => h.elim
      · exact reports_pure ()
    rw [askAgain_succ]
    refine (reports_ask h _ _).attempt_bind fun outcome houtcome => ?_
    cases outcome with
    | ok text => exact reports_pure text
    | error fault =>
      dsimp only
      split
      · exact hpause.bind fun _ => ih
      · exact reports_throw fun e he => houtcome e (congrArg Except.error he)

theorem reports_run (task : QueryTask) (h : context.backend ≠ .service) :
    (task.run context).Reports records (TaskError.IsOf task.label [.io, .query]) := by
  unfold run
  refine ((reports_openArtifact task.label _).mono fun e h => h.mono (by decide)).bind
    fun place => ?_
  refine ((task.reports_askAgain h _).mono fun e h => h.mono (by decide)).bind fun text => ?_
  exact ((reports_writeArtifact task.label _ place _).mono fun e h => h.mono (by decide)).bind
    fun _ => reports_pure _

end QueryTask

/-- The errors that a capture ends with are those of its stop phase. It records at most an error of
its start phase, as one of a class of its own. -/
theorem CaptureTask.reports_run (task : CaptureTask) {context : Context}
    (hrecords : ∀ e : TaskError, e.IsOf task.start.label task.start.kinds →
      records (e.toFailure context.group (some .captureStart))) :
    (task.run context).Reports records (TaskError.IsOf task.stop.label task.stop.kinds) := by
  have hrest : (do
      wait task.dwell
      task.stop.run context : Action Path).Reports records
        (TaskError.IsOf task.stop.label task.stop.kinds) :=
    ((reports_wait _).mono fun _ h => h.elim).bind fun _ => task.stop.reports_run context
  unfold run
  refine (task.start.reports_run context).attempt_bind fun outcome houtcome => ?_
  rcases outcome with (e | _ | _ | _ | _ | _ | _ | _) | path
  case ok => exact hrest
  case error.task =>
    refine reports_request (fun failure hfailure => ?_) fun _ => hrest
    rw [List.mem_singleton.mp hfailure]
    exact hrecords e (houtcome e rfl)
  all_goals exact reports_throw nofun

end

end Diagnostics
