import Diagnostics.Proofs.Action
import Diagnostics.Proofs.Machine
import Diagnostics.Task.Run

/-!
# Opening an artifact and starting a program

A start is recorded as one call whatever becomes of it. It is decided by the command line, by what
comes next of the program, and by the time limit (`Host.start_of_launch?`), so there are four ways
for it to end: the program comes to an end, the operating system refuses it, a word of the command
line has no octets and the request cannot even be made, or the limit cannot be kept. Only the first
two are what a task expects, and the last is about output that the caller takes; so a program task
ends with an artifact, with an error of its own, or with the fault of a word.

It is the same with an artifact: it is opened, or the operating system refuses that, or its path has
no octets and the request cannot be made.
-/

set_option autoImplicit false

namespace Diagnostics

open Diagnostics.Action

/-! ## Opening -/

/-- What a task with a label ends with whose artifact cannot be opened: a refusal is its own error,
and any other fault goes through. -/
def DiskError.toOpeningFault (label : Text) (path : Path) : DiskError → Fault
  | .os fault => .task (.failed label (.notCreated path fault))
  | e => e.toFault

section

variable {s : Session} {label : Text} {path : Path}

theorem settle_openArtifact_of_ok {place : Location} {disk : Disk}
    (h : s.host.disk.openForWriting path = .ok (place, disk)) :
    settle (openArtifact label path) s = (.ok place, s.withDisk disk) := by
  unfold openArtifact openFile
  rw [settle_bind, settle_attempt, settle_request]
  unfold Session.answer
  dsimp only
  rw [h]
  rfl

theorem settle_openArtifact_of_error {e : DiskError}
    (h : s.host.disk.openForWriting path = .error e) :
    settle (openArtifact label path) s = (.error (e.toOpeningFault label path), s) := by
  unfold openArtifact openFile
  rw [settle_bind, settle_attempt, settle_request]
  unfold Session.answer
  dsimp only
  rw [h]
  cases e <;> rfl

end

/-! ## Starting -/

namespace Host

/-- What comes of the next start of a program, if there is one of that name. -/
def launch? (host : Host) (executable : Text) : Option Launch :=
  (host.program? executable).map fun outcomes => outcomes (host.started executable)

variable (host : Host) {argv : List Text} (timeout : Option Binary64) (redirect : Redirect)

/-- A word without octets ends the start before anything else happens. -/
theorem start_of_argvFault? {fault : Fault} (h : argvFault? argv = some fault) :
    host.start argv timeout redirect =
      (.error fault, host.note (.run argv timeout redirect.channel)) := by
  unfold start
  dsimp only
  rw [h]

/-- A start is decided by the command line, by what comes next of the program, and by the limit. -/
theorem start_of_launch? (h : WordsHaveOctets argv) :
    host.start argv timeout redirect =
      match host.launch? (argv.headD "") with
      | none =>
        (.error (.os (.errno .noEntry (some (argv.headD "")))),
          host.note (.run argv timeout redirect.channel))
      | some (.refused e) =>
        (.error (.os (.errno e (some (argv.headD "")))),
          { host.note (.run argv timeout redirect.channel) with
            started := bump host.started (argv.headD "") })
      | some (.completed c) =>
        match host.limitError? timeout redirect with
        | some e =>
          (.error (.untimed e),
            { host.note (.run argv timeout redirect.channel) with
              started := bump host.started (argv.headD "") })
        | none =>
          perform
            { host.note (.run argv timeout redirect.channel) with
              started := bump host.started (argv.headD "") }
            argv timeout redirect c := by
  unfold start launch?
  dsimp only
  rw [argvFault?_eq_none_iff.mpr h]
  have hprogram : (host.note (.run argv timeout redirect.channel)).program? (argv.headD "") =
      host.program? (argv.headD "") := rfl
  dsimp only
  rw [hprogram]
  cases host.program? (argv.headD "") with
  | none => rfl
  | some outcomes =>
    dsimp only [Host.note, Option.map_some]
    cases outcomes (host.started (argv.headD "")) with
    | refused e => rfl
    | completed c => cases redirect <;> rfl

/-- What a start leaves behind: the record of it, a program that was counted and did nothing, or one
that did its work. -/
theorem start_snd_cases (argv : List Text) :
    (host.start argv timeout redirect).2 = host.note (.run argv timeout redirect.channel) ∨
      (host.start argv timeout redirect).2 =
        { host.note (.run argv timeout redirect.channel) with
          started := bump host.started (argv.headD "") } ∨
      ∃ c, host.launch? (argv.headD "") = some (.completed c) ∧
        (host.start argv timeout redirect).2 =
          (perform
            { host.note (.run argv timeout redirect.channel) with
              started := bump host.started (argv.headD "") }
            argv timeout redirect c).2 := by
  by_cases hwords : WordsHaveOctets argv
  · rw [start_of_launch? _ _ _ hwords]
    split
    · exact Or.inl rfl
    · exact Or.inr (Or.inl rfl)
    · rename_i c hnext
      split
      · exact Or.inr (Or.inl rfl)
      · exact Or.inr (Or.inr ⟨c, hnext, rfl⟩)
  · obtain ⟨fault, hfault⟩ := exists_argvFault? hwords
    rw [start_of_argvFault? _ _ _ hfault]
    exact Or.inl rfl

@[simp] theorem perform_calls (argv : List Text) (c : Completion) :
    (host.perform argv timeout redirect c).2.calls = host.calls := by
  unfold perform
  simp only [apply_ite Prod.snd, ite_self]

/-- A start is one call, whatever becomes of it. -/
theorem start_calls (argv : List Text) :
    (host.start argv timeout redirect).2.calls =
      host.calls ++ [.run argv timeout redirect.channel] := by
  rcases host.start_snd_cases timeout redirect argv with h | h | ⟨c, -, h⟩
  · rw [h]
    rfl
  · rw [h]
    rfl
  · rw [h, perform_calls]
    rfl

@[simp] theorem perform_platform (argv : List Text) (c : Completion) :
    (host.perform argv timeout redirect c).2.platform = host.platform := by
  unfold perform
  simp only [apply_ite Prod.snd, ite_self]

@[simp] theorem start_platform (argv : List Text) :
    (host.start argv timeout redirect).2.platform = host.platform := by
  rcases host.start_snd_cases timeout redirect argv with h | h | ⟨c, -, h⟩
  · rw [h]
    rfl
  · rw [h]
    rfl
  · rw [h, perform_platform]
    rfl

/-- A program comes to an end or is refused by the operating system. -/
theorem perform_cases (argv : List Text) (c : Completion) :
    (∃ ending, (host.perform argv timeout redirect c).1 = .ok ending) ∨
      ∃ fault, (host.perform argv timeout redirect c).1 = .error (.os fault) := by
  unfold perform
  cases redirect
  all_goals
    dsimp only
    split
    · exact Or.inr ⟨_, rfl⟩
    · split
      · exact Or.inl ⟨_, rfl⟩
      · exact Or.inl ⟨_, rfl⟩

/-- The four ways for a start to end: with the program, with a refusal, with a word that has no
octets, or with a limit that cannot be kept. -/
theorem start_fst_cases (argv : List Text) :
    (∃ ending, (host.start argv timeout redirect).1 = .ok ending) ∨
      (∃ fault, (host.start argv timeout redirect).1 = .error (.os fault)) ∨
      (∃ fault, argvFault? argv = some fault ∧
        (host.start argv timeout redirect).1 = .error fault) ∨
      ∃ e, host.limitError? timeout redirect = some e ∧
        (host.start argv timeout redirect).1 = .error (.untimed e) := by
  by_cases hwords : WordsHaveOctets argv
  · rw [start_of_launch? _ _ _ hwords]
    split
    · exact Or.inr (Or.inl ⟨_, rfl⟩)
    · exact Or.inr (Or.inl ⟨_, rfl⟩)
    · split
      · rename_i e hlimit
        exact Or.inr (Or.inr (Or.inr ⟨e, hlimit, rfl⟩))
      · exact (perform_cases _ _ _ _ _).imp_right Or.inl
  · obtain ⟨fault, hfault⟩ := exists_argvFault? hwords
    rw [start_of_argvFault? _ _ _ hfault]
    exact Or.inr (Or.inr (Or.inl ⟨fault, hfault, rfl⟩))

/-- If the words have octets and the limit is kept, a start ends with the program or with a
refusal. -/
theorem start_cases (h : WordsHaveOctets argv) (hlimit : host.limitError? timeout redirect = none) :
    (∃ ending, (host.start argv timeout redirect).1 = .ok ending) ∨
      ∃ fault, (host.start argv timeout redirect).1 = .error (.os fault) := by
  rcases host.start_fst_cases timeout redirect argv with
    hok | hos | ⟨fault, hfault, -⟩ | ⟨e, he, -⟩
  · exact Or.inl hok
  · exact Or.inr hos
  · rw [argvFault?_eq_none_iff.mpr h] at hfault
    cases hfault
  · rw [hlimit] at he
    cases he

end Host

/-- No request makes another machine of it. -/
theorem Session.answer_platform (s : Session) (r : Request) :
    (s.answer r).2.host.platform = s.host.platform := by
  cases r with
  | openFile path =>
    unfold answer
    dsimp only
    split <;> rfl
  | start argv timeout redirect => exact Host.start_platform _ _ _ _
  | query className namespaceName =>
    unfold answer Host.ask
    dsimp only
    split <;> rfl
  | _ => rfl

theorem Action.settle_platform {α : Type} (work : Action α) (s : Session) :
    (settle work s).2.host.platform = s.host.platform := by
  induction work generalizing s with
  | done outcome => rfl
  | request r next ih =>
    rw [settle_request]
    exact (ih _ _).trans (s.answer_platform r)

namespace ProcessTask

variable (task : ProcessTask) (argv : List Text) (redirect : Redirect)

/-- What the end of the program means for the task. -/
def verdict : Except Fault Ending → Except Fault Unit
  | .ok .timedOut => .error (.task (.failed task.label (.timedOut (task.timeout.getD 0))))
  | .ok (.exited code _ _) =>
    if code = 0 then .ok () else .error (.task (.failed task.label (.exitStatus code)))
  | .error (.os fault) => .error (.task (.failed task.label (.notStarted fault)))
  | .error fault => .error fault

/-- Running a program is one start, judged. -/
theorem settle_execute (s : Session) :
    settle (task.execute argv redirect) s =
      (task.verdict (s.host.start argv task.timeout redirect).1,
        s.withHost (s.host.start argv task.timeout redirect).2) := by
  unfold execute
  rw [settle_bind, settle_attempt, settle_start]
  dsimp only
  rcases (s.host.start argv task.timeout redirect).1 with
    (_ | _ | _ | _ | _ | _ | _ | _) | (_ | _)
  case ok.exited code _ _ =>
    by_cases hc : code = 0
    · simp [verdict, hc]
    · simp [verdict, hc]
  all_goals rfl

/-- If the words have octets, what a task does not end well with is an error of its own about the
program. -/
theorem verdict_start_cases {argv : List Text} (h : WordsHaveOctets argv)
    (hredirect : redirect ≠ .capture) (host : Host) :
    task.verdict (host.start argv task.timeout redirect).1 = .ok () ∨
      ∃ cause : TaskCause, cause.kind = .process ∧
        task.verdict (host.start argv task.timeout redirect).1 =
          .error (.task (.failed task.label cause)) := by
  rcases host.start_cases task.timeout redirect h (host.limitError?_of_ne_capture _ hredirect) with
    ⟨ending, hok⟩ | ⟨fault, herr⟩
  · rw [hok]
    cases ending with
    | timedOut => exact Or.inr ⟨_, rfl, rfl⟩
    | exited code stdout stderr =>
      by_cases hc : code = 0
      · exact Or.inl (by simp [verdict, hc])
      · exact Or.inr ⟨.exitStatus code, rfl, if_neg hc⟩
  · rw [herr]
    exact Or.inr ⟨.notStarted fault, rfl, rfl⟩

/-- A program that writes its own file is started and judged, and nothing else. -/
theorem settle_run_ownFile (h : task.ownFile = true) (context : Context) (s : Session) :
    let target := context.artifactPath task.output
    let started := s.host.start (task.argv target) task.timeout .discard
    settle (task.run context) s =
      ((task.verdict started.1).map fun _ => target, s.withHost started.2) := by
  dsimp only
  unfold run
  dsimp only
  rw [if_pos h, settle_bind, settle_execute]
  rcases task.verdict _ with _ | _ <;> rfl

end ProcessTask

end Diagnostics
