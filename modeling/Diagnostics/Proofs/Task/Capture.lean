import Diagnostics.Proofs.Catalog.Accepted
import Diagnostics.Proofs.Task.Start

/-!
# When a capture is stopped

A capture that was started has to be stopped: a trace that is left running goes on after the run
that wanted it. The start phase may fail in many ways, and all that a program can do (end badly, run
out of its time, be refused by the operating system) is an error that the capture expects, records
and steps over. There are two things that it does not step over. One is a start that could not even
be asked for, because a word of its command line has no octets; a catalog can spell one. Then the
wait and the stop phase are skipped. The other is a dwell that cannot be timed, of more seconds than
the clock holds; a catalog can ask for that too. Then the stop phase is skipped, unless the run has
been cut short, when the dwell does not matter.

`capture_completes_iff` says that these are the only ways, in terms of the calls that a run makes.
-/

set_option autoImplicit false

namespace Diagnostics

open Diagnostics.Action

def ProcessTask.argvIn (task : ProcessTask) (context : Context) : List Text :=
  task.argv (context.artifactPath task.output)

/-- The call that a program which writes its own file is started by. -/
def ProcessTask.call (task : ProcessTask) (context : Context) : Call :=
  .run (task.argvIn context) task.timeout .discard

/-- The calls that a piece of work makes, whatever it ends with. -/
def Action.callsOf {α : Type} (work : Action α) (s : Session) : List Call :=
  (settle work s).2.host.calls.drop s.host.calls.length

namespace CaptureTask

variable {task : CaptureTask} {context : Context} {s : Session}

/-- The host that the start phase leaves behind. -/
def hostStarted (task : CaptureTask) (context : Context) (host : Host) : Host :=
  (host.start (task.start.argvIn context) task.start.timeout .discard).2

/-- What the start phase leaves in the record of failures, if the capture goes on after it: nothing
if it returned, and one failure for its error. -/
def StartLeaves (task : CaptureTask) (context : Context) (s : Session) (added : List Failure) :
    Prop :=
  (∃ path, (settle (task.start.run context) s).1 = .ok path) ∧ added = [] ∨
    ∃ e, (settle (task.start.run context) s).1 = .error (.task e) ∧
      added = [⟨context.group, e.source, .captureStart, e.message⟩]

section

variable {added : List Failure} (h : task.StartLeaves context s added)

include h

/-- After the start phase comes the wait and then, if that ends, the stop phase. -/
theorem settle_run_of_startLeaves :
    settle (task.run context) s = settle (wait task.dwell >>= fun _ => task.stop.run context)
      ⟨(settle (task.start.run context) s).2.host,
        (settle (task.start.run context) s).2.failures ++ added⟩ := by
  unfold run
  rw [settle_bind, settle_attempt]
  unfold StartLeaves at h
  cases hsettle : settle (task.start.run context) s with
  | mk outcome t =>
    rw [hsettle] at h
    rcases h with ⟨⟨path, rfl⟩, rfl⟩ | ⟨e, rfl, rfl⟩
    · rw [List.append_nil]
    · rfl

/-- A dwell that can be timed, or is cut short, is followed by the stop phase. -/
theorem settle_run_of_canWait
    (hwait : (settle (task.start.run context) s).2.host.cancelled = true ∨
      s.host.platform.CanWait task.dwell) :
    settle (task.run context) s = settle (task.stop.run context)
      ⟨((settle (task.start.run context) s).2.host.wait task.dwell).2,
        (settle (task.start.run context) s).2.failures ++ added⟩ := by
  rw [← settle_platform (task.start.run context) s] at hwait
  rw [settle_run_of_startLeaves h, settle_bind, settle_wait,
    Host.wait_of_none (Host.waitError?_eq_none_iff.mpr hwait)]
  rfl

/-- A dwell that cannot be timed ends the capture. -/
theorem settle_run_of_not_canWait
    (hcancelled : (settle (task.start.run context) s).2.host.cancelled = false)
    (hwait : ¬ s.host.platform.CanWait task.dwell) :
    settle (task.run context) s = (.error (.untimed .beyondClock),
      ⟨((settle (task.start.run context) s).2.host.wait task.dwell).2,
        (settle (task.start.run context) s).2.failures ++ added⟩) := by
  rw [← settle_platform (task.start.run context) s] at hwait
  rw [settle_run_of_startLeaves h, settle_bind, settle_wait,
    Host.wait_of_error (Host.waitError?_eq_some_iff.mpr ⟨hcancelled, hwait, rfl⟩)]
  rfl

end

/-- A start phase that can be asked for is recorded if it fails. -/
theorem exists_startLeaves (hown : task.start.ownFile = true)
    (hwords : WordsHaveOctets (task.start.argvIn context)) :
    ∃ added, task.StartLeaves context s added := by
  have hstart := task.start.settle_run_ownFile hown context s
  dsimp only at hstart
  unfold StartLeaves
  rw [hstart]
  unfold ProcessTask.argvIn at hwords
  rcases task.start.verdict_start_cases .discard hwords nofun s.host with hok | ⟨cause, -, herror⟩
  · rw [hok]
    exact ⟨_, Or.inl ⟨⟨_, rfl⟩, rfl⟩⟩
  · rw [herror]
    exact ⟨_, Or.inr ⟨_, rfl, rfl⟩⟩

/-- The host that a start phase leaves behind which writes its own file. -/
theorem host_settle_start (hown : task.start.ownFile = true) :
    (settle (task.start.run context) s).2.host = task.hostStarted context s.host := by
  rw [task.start.settle_run_ownFile hown]
  rfl

theorem calls_hostStarted (host : Host) :
    (task.hostStarted context host).calls = host.calls ++ [task.start.call context] := by
  unfold hostStarted
  rw [Host.start_calls]
  rfl

/-- A start phase that cannot be asked for ends the capture there and then. -/
theorem settle_run_of_argvFault? (hown : task.start.ownFile = true) {fault : Fault}
    (hfault : Host.argvFault? (task.start.argvIn context) = some fault) :
    settle (task.run context) s =
      (.error fault, s.withHost (s.host.note (task.start.call context))) := by
  have hstart := task.start.settle_run_ownFile hown context s
  dsimp only at hstart
  unfold ProcessTask.argvIn at hfault
  rw [s.host.start_of_argvFault? _ _ hfault] at hstart
  unfold run
  rw [settle_bind, settle_attempt, hstart]
  rcases Host.argvFault?_cases hfault with ⟨e, rfl⟩ | rfl
  all_goals rfl

/-- The calls of a capture that goes on: its start, one wait for the dwell, its stop. -/
theorem callsOf_run_of_canWait (hown : task.start.ownFile = true)
    (hstop : task.stop.ownFile = true) (hwords : WordsHaveOctets (task.start.argvIn context))
    (hwait : (task.hostStarted context s.host).cancelled = true ∨
      s.host.platform.CanWait task.dwell) :
    callsOf (task.run context) s =
      [task.start.call context, .wait task.dwell (task.hostStarted context s.host).cancelled,
        task.stop.call context] := by
  have hleft : (settle (task.start.run context) s).2.host = task.hostStarted context s.host :=
    host_settle_start hown
  obtain ⟨added, hadded⟩ := exists_startLeaves (s := s) hown hwords
  have hrun := settle_run_of_canWait hadded (by rwa [hleft])
  rw [hleft] at hrun
  have hcalls : (settle (task.run context) s).2.host.calls =
      s.host.calls ++ [task.start.call context,
        .wait task.dwell (task.hostStarted context s.host).cancelled, task.stop.call context] := by
    rw [hrun, task.stop.settle_run_ownFile hstop]
    dsimp only
    rw [Session.withHost_host, Host.start_calls, Host.wait_snd]
    show ((task.hostStarted context s.host).calls ++ [_]) ++ [_] = _
    rw [calls_hostStarted, List.append_assoc, List.append_assoc]
    rfl
  unfold callsOf
  rw [hcalls, List.drop_left]

/-- The calls of a capture whose dwell cannot be timed: its start, and a wait in vain. -/
theorem callsOf_run_of_not_canWait (hown : task.start.ownFile = true)
    (hwords : WordsHaveOctets (task.start.argvIn context))
    (hcancelled : (task.hostStarted context s.host).cancelled = false)
    (hwait : ¬ s.host.platform.CanWait task.dwell) :
    callsOf (task.run context) s = [task.start.call context, .wait task.dwell false] ∧
      (settle (task.run context) s).1 = .error (.untimed .beyondClock) := by
  have hleft : (settle (task.start.run context) s).2.host = task.hostStarted context s.host :=
    host_settle_start hown
  obtain ⟨added, hadded⟩ := exists_startLeaves (s := s) hown hwords
  have hrun := settle_run_of_not_canWait hadded (by rwa [hleft]) hwait
  refine ⟨?_, by rw [hrun]⟩
  have hcalls : (settle (task.run context) s).2.host.calls =
      s.host.calls ++ [task.start.call context, .wait task.dwell false] := by
    rw [hrun, hleft, Host.wait_snd, hcancelled]
    show (task.hostStarted context s.host).calls ++ [_] = _
    rw [calls_hostStarted, List.append_assoc]
    rfl
  unfold callsOf
  rw [hcalls, List.drop_left]

/-- The calls of a capture that does not get to its wait: its start, which was asked for in vain. -/
theorem callsOf_run_of_argvFault? (hown : task.start.ownFile = true) {fault : Fault}
    (hfault : Host.argvFault? (task.start.argvIn context) = some fault) :
    callsOf (task.run context) s = [task.start.call context] := by
  unfold callsOf
  rw [settle_run_of_argvFault? hown hfault]
  exact List.drop_left

/-- **When a capture is stopped.** Whatever its start phase comes to, a capture of an accepted
catalog starts, waits once and then runs its stop phase once, exactly if every word of the start
phase has octets, and the dwell can be timed or the run has been cut short by then. A start phase
with a word that has none is all that happens, and the capture ends with the fault of that word; a
dwell that cannot be timed is asked for, and the capture ends with that, without its stop phase. -/
theorem capture_completes_iff {document : Json} {groups : List Group} {group : Group}
    {tasks : List Task} (hparse : Catalog.parse document = .ok groups) (hgroup : group ∈ groups)
    (hwork : group.work = .tasks tasks) (htask : .capture task ∈ tasks) (context : Context)
    (s : Session) :
    (callsOf (task.run context) s =
        [task.start.call context, .wait task.dwell (task.hostStarted context s.host).cancelled,
          task.stop.call context] ↔
      WordsHaveOctets (task.start.argvIn context) ∧
        ((task.hostStarted context s.host).cancelled = true ∨
          s.host.platform.CanWait task.dwell)) ∧
    (∀ fault, Host.argvFault? (task.start.argvIn context) = some fault →
      callsOf (task.run context) s = [task.start.call context] ∧
        (settle (task.run context) s).1 = .error fault) ∧
    (WordsHaveOctets (task.start.argvIn context) →
      (task.hostStarted context s.host).cancelled = false →
      ¬ s.host.platform.CanWait task.dwell →
        callsOf (task.run context) s = [task.start.call context, .wait task.dwell false] ∧
          (settle (task.run context) s).1 = .error (.untimed .beyondClock)) := by
  have hcatalogued := (Catalog.parse_ok hparse).1 group hgroup
  unfold Group.IsCatalogued at hcatalogued
  rw [hwork] at hcatalogued
  obtain ⟨hstart, hstop, -⟩ := hcatalogued _ htask
  refine ⟨⟨fun hcalls => ?_, fun h => callsOf_run_of_canWait hstart hstop h.1 h.2⟩,
    fun fault hfault => ⟨callsOf_run_of_argvFault? hstart hfault,
      by rw [settle_run_of_argvFault? hstart hfault]⟩,
    callsOf_run_of_not_canWait hstart⟩
  -- A capture that goes wrong makes fewer calls.
  by_contra hnot
  by_cases hwords : WordsHaveOctets (task.start.argvIn context)
  · have hwait := not_or.mp fun h => hnot ⟨hwords, h⟩
    rw [(callsOf_run_of_not_canWait hstart hwords (Bool.eq_false_iff.mpr hwait.1) hwait.2).1]
      at hcalls
    exact absurd hcalls (by simp)
  · obtain ⟨fault, hfault⟩ := Host.exists_argvFault? hwords
    rw [callsOf_run_of_argvFault? hstart hfault] at hcalls
    exact absurd hcalls (by simp)

end CaptureTask

/-! ## A catalog whose capture is not stopped -/

namespace Example

def phaseJson (arguments : Text) : Json :=
  .object [("executable", .text "wpr"), ("args", .text arguments), ("output", .text "trace.etl")]

/-- A group of one capture, with these arguments of its start phase and this dwell. -/
def traceJson (arguments : Text) (seconds : Nat := 5) : Json :=
  .object [("name", .text "Trace"), ("tasks", .array [.object [("type", .text "capture"),
    ("start", phaseJson arguments), ("stop", phaseJson "-stop trace.etl"),
    ("dwell_seconds", .integer seconds)]])]

def captureCatalog (arguments : Text) (seconds : Nat := 5) : Json :=
  .object [("groups", .array [traceJson arguments seconds])]

def captureTask (arguments : Text) (seconds : Nat := 5) : CaptureTask where
  start := ⟨"wpr", arguments, "trace.etl", true, none⟩
  stop := ⟨"wpr", "-stop trace.etl", "trace.etl", true, none⟩
  dwell := Binary64.ofRatio false seconds 1
  sameOutput := rfl

def traceGroup (arguments : Text) (seconds : Nat := 5) : Group :=
  ⟨"Trace", false, .tasks [.capture (captureTask arguments seconds)]⟩

/-- A dwell of more seconds than the clock holds, which is some three hundred years. -/
def endless : Nat := 10000000000

/-- A staging directory and a query service that is never asked. -/
def stageContext : Context :=
  ⟨Path.ofText "stage", .cim "powershell.exe" none, "Trace", 1, 0⟩

def exits (code : Int) : Launch := .completed ⟨false, [], [], [], 0, code⟩

/-- A session on a host whose tracing program ends badly when it is started first. -/
def traceSession : Session where
  host :=
    { disk := ⟨.directory [], [], []⟩
      programs := fun name => if name = "wpr" then some fun k => exits (if k = 0 then 5 else 0)
        else none
      started := fun _ => 0
      answers := fun _ _ => .text ""
      asked := fun _ => 0
      cancelled := false
      calls := [] }
  failures := []

end Example

open Example

/-- A capture whose start phase ends badly is stopped all the same. -/
theorem CaptureTask.capture_completes_failing_start :
    Catalog.parse (captureCatalog "-start CPU") = .ok [traceGroup "-start CPU"] ∧
      (settle ((captureTask "-start CPU").start.run stageContext) traceSession).1 =
        .error (.task (.failed "wpr -start CPU" (.exitStatus 5))) ∧
      callsOf ((captureTask "-start CPU").run stageContext) traceSession =
        [.run ["wpr", "-start", "CPU"] none .discard,
          .wait (captureTask "-start CPU").dwell false,
          .run ["wpr", "-stop", "stage/trace.etl"] none .discard] := by
  have hparse : Catalog.parse (captureCatalog "-start CPU") = .ok [traceGroup "-start CPU"] := rfl
  refine ⟨hparse, rfl, ?_⟩
  exact (capture_completes_iff hparse (List.mem_singleton_self _) rfl (List.mem_singleton_self _)
    stageContext traceSession).1.mpr (by decide +kernel)

/-- Two captures of accepted catalogs that are not stopped: of all calls that a capture should make,
the one whose start phase has a word with a U+0000 makes the first one only, and the one whose dwell
cannot be timed makes the first two. -/
theorem CaptureTask.capture_left_running :
    Catalog.parse (captureCatalog "-start CPU\x00") = .ok [traceGroup "-start CPU\x00"] ∧
      callsOf ((captureTask "-start CPU\x00").run stageContext) traceSession =
        [.run ["wpr", "-start", "CPU\x00"] none .discard] ∧
      Catalog.parse (captureCatalog "-start CPU" endless) =
        .ok [traceGroup "-start CPU" endless] ∧
      callsOf ((captureTask "-start CPU" endless).run stageContext) traceSession =
        [.run ["wpr", "-start", "CPU"] none .discard,
          .wait (captureTask "-start CPU" endless).dwell false] := by
  refine ⟨rfl, rfl, rfl, rfl⟩

end Diagnostics
