import Diagnostics.Proofs.Calls
import Diagnostics.Proofs.Task.Capture
import Diagnostics.Proofs.Task.Redirected
import Diagnostics.Proofs.Task.Turns

/-!
# The stop phase decides

A capture is three things one after another: its start phase, a wait, and its stop phase. The stop
phase is run on what the start phase has left, as if there had been no wait and as if the failure of
the start phase had not been recorded: both are only told in records, of calls and of failures, and
no program task asks what was recorded before (`Action.settle_behind`). So how the stop phase ends
is how the capture ends, and what it leaves is what the capture leaves, up to these records
(`CaptureTask.stop_decides`).

There is one exception. A dwell of more seconds than the clock holds cannot be waited for, unless
the run has been cut short; then the capture ends with that, and there is no stop phase.
-/

set_option autoImplicit false

namespace Diagnostics

open Diagnostics.Action

/-! ## Work that does not ask for records -/

/-- The same host with earlier calls. -/
def Host.behind (host : Host) (calls : List Call) : Host :=
  { host with calls := calls ++ host.calls }

/-- The same session with earlier calls and failures. -/
def Session.behind (s : Session) (calls : List Call) (failures : List Failure) : Session :=
  ⟨s.host.behind calls, failures ++ s.failures⟩

/-- The same session, on which nothing has been called or recorded yet. -/
def Session.unrecorded (s : Session) : Session :=
  ⟨{ s.host with calls := [] }, []⟩

theorem Session.behind_unrecorded (s : Session) :
    s.unrecorded.behind s.host.calls s.failures = s := by
  simp [unrecorded, behind, Host.behind]

namespace Host

variable (host : Host) (calls : List Call)

theorem note_behind (call : Call) :
    (host.behind calls).note call = (host.note call).behind calls := by
  unfold note behind
  rw [List.append_assoc]

theorem perform_behind (argv : List Text) (timeout : Option Binary64) (redirect : Redirect)
    (c : Completion) :
    (host.behind calls).perform argv timeout redirect c =
      ((host.perform argv timeout redirect c).1,
        (host.perform argv timeout redirect c).2.behind calls) := by
  unfold perform
  dsimp only [behind]
  split_ifs <;> rfl

theorem start_behind (argv : List Text) (timeout : Option Binary64) (redirect : Redirect) :
    (host.behind calls).start argv timeout redirect =
      ((host.start argv timeout redirect).1,
        (host.start argv timeout redirect).2.behind calls) := by
  by_cases hwords : WordsHaveOctets argv
  · rw [start_of_launch? _ _ _ hwords, start_of_launch? _ _ _ hwords, note_behind]
    have hlaunch : (host.behind calls).launch? (argv.headD "") = host.launch? (argv.headD "") := rfl
    have hlimit : (host.behind calls).limitError? timeout redirect =
        host.limitError? timeout redirect := by
      cases redirect <;> rfl
    rw [hlaunch, hlimit]
    generalize host.note (.run argv timeout redirect.channel) = noted
    split
    · rfl
    · rfl
    · split
      · rfl
      · exact perform_behind { noted with started := bump host.started (argv.headD "") } calls
          argv timeout redirect _
  · obtain ⟨fault, hfault⟩ := exists_argvFault? hwords
    rw [start_of_argvFault? _ _ _ hfault, start_of_argvFault? _ _ _ hfault, note_behind]

theorem ask_behind (className namespaceName : Text) :
    (host.behind calls).ask className namespaceName =
      ((host.ask className namespaceName).1,
        (host.ask className namespaceName).2.behind calls) := by
  unfold ask
  rw [note_behind]
  have hanswers : (host.behind calls).answers = host.answers := rfl
  have hasked : (host.behind calls).asked = host.asked := rfl
  rw [hanswers, hasked]
  dsimp only
  split <;> rfl

end Host

/-- No answer depends on what was recorded before, unless that is asked for. -/
theorem Session.answer_behind (s : Session) (calls : List Call) (failures : List Failure)
    {r : Request} (hr : r ≠ .recorded) :
    (s.behind calls failures).answer r =
      ((s.answer r).1, (s.answer r).2.behind calls failures) := by
  have hdisk : (s.behind calls failures).host.disk = s.host.disk := rfl
  have hhost : (s.behind calls failures).host = s.host.behind calls := rfl
  cases r with
  | openFile path =>
    dsimp only [answer]
    rw [hdisk]
    cases s.host.disk.openForWriting path <;> rfl
  | start argv timeout redirect =>
    dsimp only [answer]
    rw [hhost, Host.start_behind]
    rfl
  | query className namespaceName =>
    dsimp only [answer]
    rw [hhost, Host.ask_behind]
    rfl
  | wait seconds =>
    dsimp only [answer]
    unfold Host.wait
    rw [hhost, Host.note_behind]
    rfl
  | record failure =>
    dsimp only [answer, behind]
    rw [List.append_assoc]
  | closeFile place octets => rfl
  | ensureDirectories path => rfl
  | collect roots => rfl
  | recorded => exact absurd rfl hr

/-- Work that never asks for records goes on in the same way behind other ones. -/
theorem Action.settle_behind {α : Type} {work : Action α} {past : List Failure}
    (h : work.Guarantees (fun _ => True) (· ≠ .recorded) (fun _ _ => True) past)
    (s : Session) (calls : List Call) (failures : List Failure) :
    settle work (s.behind calls failures) =
      ((settle work s).1, (settle work s).2.behind calls failures) := by
  induction work generalizing s past with
  | done outcome => rfl
  | request r next ih =>
    rw [settle_request, settle_request, Session.answer_behind s calls failures h.1]
    exact ih _ (h.2 s trivial) _

/-! ## What work calls -/

/-- The calls of a piece of work come after all others. -/
theorem Action.calls_settle {α : Type} (work : Action α) (s : Session) :
    (settle work s).2.host.calls = s.host.calls ++ callsOf work s := by
  have hprefix : s.host.calls <+: (settle work s).2.host.calls := by
    induction work generalizing s with
    | done outcome => exact List.prefix_rfl
    | request r next ih =>
      rw [settle_request]
      exact (Session.answer_calls s r ▸ List.prefix_append _ _).trans (ih _ _)
  exact List.prefix_iff_eq_append.mp hprefix |>.symm

namespace ProcessTask

variable (task : ProcessTask) (context : Context) (s : Session)

/-- A program task starts its program at most, and that once. -/
theorem callsOf_run :
    callsOf (task.run context) s = [] ∨
      ∃ channel, callsOf (task.run context) s =
        [.run (task.argvIn context) task.timeout channel] := by
  unfold callsOf
  cases hown : task.ownFile with
  | true =>
    right
    refine ⟨.discard, ?_⟩
    rw [settle_run_ownFile task hown]
    dsimp only
    rw [Session.withHost_host, Host.start_calls, List.drop_left]
    rfl
  | false =>
    cases hopened : s.host.disk.openForWriting (context.artifactPath task.output) with
    | error e =>
      left
      rw [settle_run_of_not_opened hown hopened, List.drop_length]
    | ok opened =>
      obtain ⟨place, disk⟩ := opened
      right
      refine ⟨.file, ?_⟩
      rw [settle_run_of_opened hown hopened]
      dsimp only
      rw [Session.withHost_host, Host.start_calls]
      exact List.drop_left

theorem settle_run_behind (calls : List Call) (failures : List Failure) :
    settle (task.run context) (s.behind calls failures) =
      ((settle (task.run context) s).1,
        (settle (task.run context) s).2.behind calls failures) := by
  have hasks := @run_guarantees context (fun _ => True) (fun _ => True) [] task (fun _ _ => True)
    (Task.opensAt_anywhere context (.process task)) trivial fun _ => trivial
  refine settle_behind (hasks.weaken fun r hr => ?_) s calls failures
  rintro rfl
  exact hr.makes

/-- From two sessions that differ in their records only, a program task ends in the same way and
leaves the same, each time behind the records there were. -/
theorem settle_run_of_unrecorded_eq {s t : Session} (h : t.unrecorded = s.unrecorded) :
    settle (task.run context) t =
      ((settle (task.run context) s).1,
        ⟨{ (settle (task.run context) s).2.host with
            calls := t.host.calls ++ callsOf (task.run context) s },
          t.failures⟩) := by
  have hbehind : ∀ u : Session, settle (task.run context) u =
      ((settle (task.run context) u.unrecorded).1,
        (settle (task.run context) u.unrecorded).2.behind u.host.calls u.failures) := by
    intro u
    conv_lhs => rw [← u.behind_unrecorded]
    exact task.settle_run_behind context u.unrecorded u.host.calls u.failures
  have hcalls : callsOf (task.run context) s =
      (settle (task.run context) s.unrecorded).2.host.calls := by
    unfold callsOf
    rw [hbehind s]
    exact List.drop_left
  have hsilent := task.settle_run_failures context s.unrecorded
  rw [hcalls, hbehind t, h, hbehind s]
  unfold Session.behind Host.behind
  rw [hsilent]
  simp [Session.unrecorded]

end ProcessTask

/-! ## The phases of a capture -/

namespace CaptureTask

variable {task : CaptureTask} {context : Context} {s : Session}

/-- **The stop phase alone decides a capture.** If the start phase ends by returning or by an error
of its own, a capture is its start phase, one wait for its dwell, and its stop phase, each phase with
one start of its program at most. The failure for an error of the start phase is recorded before the
stop phase begins. How the capture ends and what it leaves is what comes of the stop phase on what
the start phase has left, up to the wait in the record of calls and to that failure. But if the
dwell cannot be timed and nobody has cut the run short, the capture ends with that, after its wait
was asked for. -/
theorem stop_decides (hstart : ∀ fault, (settle (task.start.run context) s).1 = .error fault →
      ∃ e, fault = .task e) :
    let started := settle (task.start.run context) s
    let stopped := settle (task.stop.run context) started.2
    ∃ added : List Failure, task.StartLeaves context s added ∧
      (callsOf (task.start.run context) s = [] ∨ ∃ channel, callsOf (task.start.run context) s =
        [.run (task.start.argvIn context) task.start.timeout channel]) ∧
      (callsOf (task.stop.run context) started.2 = [] ∨
        ∃ channel, callsOf (task.stop.run context) started.2 =
          [.run (task.stop.argvIn context) task.stop.timeout channel]) ∧
      ((started.2.host.cancelled = true ∨ s.host.platform.CanWait task.dwell) →
        settle (task.run context) s = settle (task.stop.run context)
          ⟨(started.2.host.wait task.dwell).2, s.failures ++ added⟩ ∧
        settle (task.run context) s = (stopped.1,
          ⟨{ stopped.2.host with
              calls := s.host.calls ++ (callsOf (task.start.run context) s ++
                .wait task.dwell started.2.host.cancelled ::
                  callsOf (task.stop.run context) started.2) },
            s.failures ++ added⟩)) ∧
      (started.2.host.cancelled = false → ¬ s.host.platform.CanWait task.dwell →
        settle (task.run context) s = (.error (.untimed .beyondClock),
          ⟨{ started.2.host with
              calls := s.host.calls ++
                (callsOf (task.start.run context) s ++ [.wait task.dwell false]) },
            s.failures ++ added⟩)) := by
  dsimp only
  obtain ⟨added, hadded⟩ : ∃ added, task.StartLeaves context s added := by
    cases houtcome : (settle (task.start.run context) s).1 with
    | ok path => exact ⟨_, Or.inl ⟨⟨path, houtcome⟩, rfl⟩⟩
    | error fault =>
      obtain ⟨e, rfl⟩ := hstart fault houtcome
      exact ⟨_, Or.inr ⟨e, houtcome, rfl⟩⟩
  have hwaits := settle_run_of_canWait hadded
  have hends := settle_run_of_not_canWait hadded
  rw [task.start.settle_run_failures] at hwaits hends
  have hcalls := calls_settle (task.start.run context) s
  refine ⟨added, hadded, task.start.callsOf_run context s, task.stop.callsOf_run context _,
    fun hwait => ⟨hwaits hwait, ?_⟩, fun hcancelled hwait => ?_⟩
  · specialize hwaits hwait
    generalize settle (task.start.run context) s = started at hwaits hcalls ⊢
    -- Before its stop phase a capture has left other records than its start phase, and nothing else.
    have hwaited : (⟨(started.2.host.wait task.dwell).2, s.failures ++ added⟩ :
        Session).unrecorded = started.2.unrecorded := rfl
    rw [hwaits, task.stop.settle_run_of_unrecorded_eq context hwaited]
    simp [Host.note, hcalls]
  · rw [hends hcancelled hwait, Host.wait_snd]
    simp [Host.note, hcalls, hcancelled]

end CaptureTask

open Example

/-- The start phase ends badly, which is recorded, and the capture ends as its stop phase does. -/
theorem CaptureTask.stop_decides_failing_start :
    (settle ((captureTask "-start CPU").start.run stageContext) traceSession).1 =
        .error (.task (.failed "wpr -start CPU" (.exitStatus 5))) ∧
      (settle ((captureTask "-start CPU").run stageContext) traceSession).1 =
        (settle ((captureTask "-start CPU").stop.run stageContext)
          (settle ((captureTask "-start CPU").start.run stageContext) traceSession).2).1 ∧
      (settle ((captureTask "-start CPU").run stageContext) traceSession).2.failures =
        [⟨"Trace", "wpr -start CPU", .captureStart, "wpr -start CPU: exit status 5"⟩] := by
  have hstarted : (settle ((captureTask "-start CPU").start.run stageContext) traceSession).1 =
      .error (.task (.failed "wpr -start CPU" (.exitStatus 5))) := rfl
  obtain ⟨added, hadded, -, -, hwaits, -⟩ := @stop_decides (captureTask "-start CPU") stageContext
    traceSession fun fault hfault => ⟨_, Except.error.inj (hfault.symm.trans hstarted)⟩
  obtain ⟨-, hrun⟩ := hwaits (Or.inr (by decide +kernel))
  refine ⟨hstarted, by rw [hrun], ?_⟩
  rw [hrun]
  rcases hadded with ⟨⟨path, hpath⟩, -⟩ | ⟨e, he, rfl⟩
  · rw [hstarted] at hpath
    cases hpath
  · rw [hstarted] at he
    cases he
    rfl

/-- The start phase ends badly and the dwell cannot be timed: the stop phase, which would end well,
is not run, and the capture ends with the fault of its wait. -/
theorem CaptureTask.endless_dwell_skips_stop :
    (∃ e, (settle ((captureTask "-start CPU" endless).start.run stageContext) traceSession).1 =
        .error (.task e)) ∧
      (settle ((captureTask "-start CPU" endless).stop.run stageContext)
        (settle ((captureTask "-start CPU" endless).start.run stageContext) traceSession).2).1 =
          .ok (Path.ofText "stage/trace.etl") ∧
      (settle ((captureTask "-start CPU" endless).run stageContext) traceSession).1 =
        .error (.untimed .beyondClock) ∧
      callsOf ((captureTask "-start CPU" endless).run stageContext) traceSession =
        [.run ["wpr", "-start", "CPU"] none .discard,
          .wait (captureTask "-start CPU" endless).dwell false] :=
  ⟨⟨_, rfl⟩, rfl, rfl, rfl⟩

end Diagnostics
