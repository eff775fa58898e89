import Diagnostics.Proofs.FanOut.Step
import Diagnostics.Proofs.Footprint

/-!
# The tasks of a group take turns

A group runs its tasks one after another. Each has one turn, which begins on the session that the
turn before it has left; and a turn ends with the artifact of the task or with one failure, whatever
stopped the task. A capture may leave one failure more: that of its start phase, which it steps
over. `runAll_accounts` adds this up over all turns.

Nothing of this depends on how tasks end: `TakeTurns` goes on after every task, so the induction on
the list is the same for a task that returns, one that fails as expected and one that does not.
-/

set_option autoImplicit false

namespace Diagnostics

open Diagnostics.Action

/-! ## What a task records by itself -/

/-- What the start phase of a capture ends with, if that is an error that the capture steps over. -/
def CaptureTask.startError? (task : CaptureTask) (context : Context) (s : Session) :
    Option TaskError :=
  match (settle (task.start.run context) s).1 with
  | .error (.task e) => some e
  | _ => none

def Task.startError? (task : Task) (context : Context) (s : Session) : Option TaskError :=
  match task with
  | .capture task => task.startError? context s
  | _ => none

/-- The failure that a start phase leaves. -/
def Context.startFailures (context : Context) (e : Option TaskError) : List Failure :=
  e.toList.map fun e => e.toFailure context.group (some .captureStart)

section

variable (context : Context) (s : Session)

/-- Nothing is known of the places that a task writes to. -/
theorem Task.opensAt_anywhere (task : Task) :
    task.OpensAt context (fun _ => True) fun _ => True :=
  fun _ _ _ _ _ _ => trivial

theorem ProcessTask.settle_run_failures (task : ProcessTask) :
    (settle (task.run context) s).2.failures = s.failures := by
  apply Guarantees.settle_failures
  exact ProcessTask.run_guarantees (Task.opensAt_anywhere context (.process task)) rfl fun _ => rfl

theorem QueryTask.settle_run_failures (task : QueryTask) :
    (settle (task.run context) s).2.failures = s.failures := by
  apply Guarantees.settle_failures
  exact QueryTask.run_guarantees (Task.opensAt_anywhere context (.query task)) rfl fun _ => rfl

theorem settle_runStub_failures (output : Text) (fault : Option Fault) :
    (settle (runStub output fault context) s).2.failures = s.failures := by
  apply Guarantees.settle_failures
  exact runStub_guarantees (Task.opensAt_anywhere context (.stub output fault)) rfl fun _ => rfl

/-- Of the two phases only the first can leave a failure, and the second is run after it. -/
theorem CaptureTask.settle_run_failures (task : CaptureTask) :
    (settle (task.run context) s).2.failures =
      s.failures ++ context.startFailures (task.startError? context s) := by
  have hstart := task.start.settle_run_failures context s
  have hstop : ∀ t : Session, (settle (wait task.dwell >>= fun _ => task.stop.run context)
      t).2.failures = t.failures := by
    intro t
    rw [settle_bind, settle_wait]
    cases (t.host.wait task.dwell).1 with
    | error fault => rfl
    | ok _ => exact (task.stop.settle_run_failures context _).trans rfl
  unfold run startError? Context.startFailures
  rw [settle_bind, settle_attempt]
  cases hsettle : settle (task.start.run context) s with
  | mk outcome t =>
    rw [hsettle] at hstart
    cases outcome with
    | ok path => simpa using (hstop t).trans hstart
    | error fault =>
      cases fault with
      | task e =>
        show (settle (context.report e _ >>= fun _ => _) t).2.failures = _
        unfold Context.report
        rw [settle_bind, settle_recordFailure]
        refine (hstop _).trans ?_
        simpa using hstart
      | _ => exact hstart.trans (List.append_nil _).symm

theorem Task.settle_run_failures (task : Task) :
    (settle (task.run context) s).2.failures =
      s.failures ++ context.startFailures (task.startError? context s) := by
  cases task with
  | process task => exact (task.settle_run_failures context s).trans (List.append_nil _).symm
  | query task => exact (task.settle_run_failures context s).trans (List.append_nil _).symm
  | capture task => exact task.settle_run_failures context s
  | stub output fault =>
    exact (settle_runStub_failures context s output fault).trans (List.append_nil _).symm

end

/-! ## Turns -/

/-- One run of a task, and the session that it begins on. -/
structure TaskTurn where
  task : Task
  before : Session

namespace TaskTurn

variable (context : Context) (turn : TaskTurn)

def outcome : Except Fault Path :=
  (settle (turn.task.run context) turn.before).1

/-- What the task returned, if it did. -/
def artifact? : Option Path :=
  match turn.outcome context with
  | .ok path => some path
  | .error _ => none

/-- The failure that is recorded for a task that has not returned. -/
def verdict : List Failure :=
  match turn.outcome context with
  | .ok _ => []
  | .error (.task e) => [e.toFailure context.group none]
  | .error fault => [fault.toFailure context.group turn.task.label]

/-- The session at the end of the turn. -/
def after : Session :=
  (settle (turn.task.run context) turn.before).2.recordAll (turn.verdict context)

/-- Whether the task is a capture whose start phase failed as expected. -/
def startFailed : Bool :=
  (turn.task.startError? context turn.before).isSome

/-- Everything that is recorded in the turn. -/
def failures : List Failure :=
  context.startFailures (turn.task.startError? context turn.before) ++ turn.verdict context

/-- A task whose failure is recorded is one turn. -/
theorem settle_runRecorded :
    settle (turn.task.runRecorded context) turn.before =
      (.ok (turn.artifact? context), turn.after context) := by
  unfold Task.runRecorded artifact? after verdict outcome
  rw [settle_bind, settle_attempt]
  dsimp only
  cases (settle (turn.task.run context) turn.before).1 with
  | ok path => simp [Session.recordAll]
  | error fault =>
    cases fault with
    | task e => rfl
    | _ => rfl

theorem after_failures :
    (turn.after context).failures = turn.before.failures ++ turn.failures context := by
  unfold after Session.recordAll failures
  rw [Task.settle_run_failures, List.append_assoc]

/-- A turn gives an artifact or a failure, and a failed start phase one failure more. -/
theorem length_failures :
    (turn.artifact? context).toList.length + (turn.failures context).length =
      1 + if turn.startFailed context then 1 else 0 := by
  have hstart : (context.startFailures (turn.task.startError? context turn.before)).length =
      if turn.startFailed context then 1 else 0 := by
    unfold startFailed Context.startFailures
    cases turn.task.startError? context turn.before <;> simp
  have hverdict : (turn.artifact? context).toList.length + (turn.verdict context).length = 1 := by
    unfold artifact? verdict
    cases turn.outcome context with
    | ok path => simp
    | error fault => cases fault <;> simp
  unfold failures
  rw [List.length_append, hstart]
  omega

/-- Whatever is recorded in a turn is attributed to the group. -/
theorem group_of_mem_failures {failure : Failure} (h : failure ∈ turn.failures context) :
    failure.group = context.group := by
  unfold failures at h
  rcases List.mem_append.mp h with h | h
  · obtain ⟨e, -, rfl⟩ := List.mem_map.mp h
    rfl
  · unfold verdict at h
    cases hended : turn.outcome context with
    | ok path => simp [hended] at h
    | error fault =>
      cases fault with
      | task e =>
        simp only [hended, List.mem_singleton] at h
        rw [h]
        rfl
      | _ =>
        simp only [hended, List.mem_singleton] at h
        rw [h]
        rfl

end TaskTurn

/-- Each turn begins on the session that the one before it has left. -/
inductive TakeTurns (context : Context) : Session → List TaskTurn → Session → Prop
  | nobody (s : Session) : TakeTurns context s [] s
  | next {turn : TaskTurn} {turns : List TaskTurn} {t : Session} :
      TakeTurns context (turn.after context) turns t →
      TakeTurns context turn.before (turn :: turns) t

namespace TakeTurns

variable {context : Context} {s t : Session} {turns : List TaskTurn}

theorem settle_runAll (h : TakeTurns context s turns t) :
    settle (runAll context (turns.map TaskTurn.task)) s =
      (.ok (turns.filterMap (TaskTurn.artifact? context)), t) := by
  induction h with
  | nobody s => rfl
  | @next turn turns t _ ih =>
    show settle (turn.task.runRecorded context >>= fun path =>
      runAll context (turns.map TaskTurn.task) >>= fun paths => pure (path.toList ++ paths)) _ = _
    rw [settle_bind, turn.settle_runRecorded context]
    dsimp only
    rw [settle_bind, ih]
    cases hartifact : turn.artifact? context <;> simp [hartifact]

/-- Nothing is recorded but in turns, and everything that is stays in order. -/
theorem failures_eq (h : TakeTurns context s turns t) :
    t.failures = s.failures ++ turns.flatMap (TaskTurn.failures context) := by
  induction h with
  | nobody s => simp
  | next _ ih => rw [ih, TaskTurn.after_failures, List.flatMap_cons, List.append_assoc]

end TakeTurns

/-- All tasks of a list have their turns, whatever comes of them. -/
theorem exists_takeTurns (context : Context) (tasks : List Task) : ∀ s : Session,
    ∃ turns t, turns.map TaskTurn.task = tasks ∧ TakeTurns context s turns t := by
  induction tasks with
  | nil => exact fun s => ⟨[], s, rfl, .nobody s⟩
  | cons task tasks ih =>
    intro s
    obtain ⟨turns, t, htasks, hturns⟩ := ih (TaskTurn.after context ⟨task, s⟩)
    refine ⟨⟨task, s⟩ :: turns, t, ?_, .next hturns⟩
    rw [List.map_cons, htasks]

theorem length_flatMap_failures (context : Context) (turns : List TaskTurn) :
    (turns.filterMap (TaskTurn.artifact? context)).length +
        (turns.flatMap (TaskTurn.failures context)).length =
      turns.length + turns.countP (TaskTurn.startFailed context) := by
  induction turns with
  | nil => rfl
  | cons turn turns ih =>
    have hturn := turn.length_failures context
    have hartifacts : ((turn :: turns).filterMap (TaskTurn.artifact? context)).length =
        (turn.artifact? context).toList.length +
          (turns.filterMap (TaskTurn.artifact? context)).length := by
      cases hartifact : turn.artifact? context <;> simp [hartifact, Nat.add_comm]
    rw [hartifacts, List.flatMap_cons, List.length_append, List.length_cons, List.countP_cons]
    omega

theorem runAll_append (context : Context) (tasks others : List Task) :
    runAll context (tasks ++ others) = (do
      let paths ← runAll context tasks
      let more ← runAll context others
      return paths ++ more) := by
  induction tasks with
  | nil => simp [runAll]
  | cons task tasks ih =>
    rw [List.cons_append, runAll, ih, runAll]
    simp only [bind_assoc, pure_bind, List.append_assoc]

/-- **What a group of tasks accounts for.** Whatever its tasks come to, running them never ends with
a fault. Each task has one turn, in the order of the list and on the session that the task before
it has left; what is returned are the artifacts of the tasks that returned one, in this order; and
each task leaves an artifact or a failure, where a capture whose start phase failed as expected
leaves one failure more. All failures are attributed to the group. And running two lists as one is
running the first and then, on what it has left, the second. -/
theorem runAll_accounts (context : Context) (tasks : List Task) (s : Session) :
    (∃ turns t, turns.map TaskTurn.task = tasks ∧ TakeTurns context s turns t ∧
      settle (runAll context tasks) s = (.ok (turns.filterMap (TaskTurn.artifact? context)), t) ∧
      ∃ added, t.failures = s.failures ++ added ∧
        (turns.filterMap (TaskTurn.artifact? context)).length + added.length =
          tasks.length + turns.countP (TaskTurn.startFailed context) ∧
        ∀ failure ∈ added, failure.group = context.group) ∧
    ∀ others, runAll context (tasks ++ others) = (do
      let paths ← runAll context tasks
      let more ← runAll context others
      return paths ++ more) := by
  obtain ⟨turns, t, htasks, hturns⟩ := exists_takeTurns context tasks s
  refine ⟨⟨turns, t, htasks, hturns, ?_, _, hturns.failures_eq, ?_, ?_⟩, runAll_append context tasks⟩
  · rw [← htasks]
    exact hturns.settle_runAll
  · rw [length_flatMap_failures, ← htasks, List.length_map]
  · intro failure hfailure
    obtain ⟨turn, -, hturn⟩ := List.mem_flatMap.mp hfailure
    exact turn.group_of_mem_failures context hturn

end Diagnostics
