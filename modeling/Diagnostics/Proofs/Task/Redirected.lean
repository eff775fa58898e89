import Diagnostics.Proofs.Disk.Elsewhere
import Diagnostics.Proofs.Disk.Reaching
import Diagnostics.Proofs.Task.Artifact

/-!
# Programs whose output is the artifact

A program that does not write its own file has both outputs redirected into the artifact, which is
opened first. Opening takes away what the artifact held before, so whatever becomes of the program
then, the artifact holds what it has printed and nothing else (`Host.at?_start_of_file`), as long as
the program does not write the artifact by itself too. Whether the task returns is a matter of the
program alone, unless its output is handed over to be written, when the artifact has to take it
(`ProcessTask.verdict_start_file_iff`).

All this is said of artifacts and of programs that can be asked for. A name with U+0000 in it, or
with a surrogate that stands for no octet, is no name of a file, and no word of a command line
either: the run ends then before anything happens, or before the program is started, and with a
fault that no task expects (`ProcessTask.run_redirected`).
-/

set_option autoImplicit false

namespace Diagnostics

open Diagnostics.Action Disk

/-- What a program has printed when it is done: nothing if it did not start. -/
def Launch.printed : Option Launch → List UInt8
  | some (.completed c) => c.stdout ++ c.stderr
  | _ => []

namespace Completion

/-- The status that a program ends with: its own, unless it could not write one of its files. -/
def status (c : Completion) (argv : List Text) (disk : Disk) : Int :=
  if (disk.writeArguments argv c.writes).1 then c.exitCode else unwritableStatus

/-- A program comes to an end in time and with a status of zero. -/
def EndsWell (c : Completion) (argv : List Text) (timeout : Option Binary64) (disk : Disk) : Prop :=
  timeout.any (· < c.seconds) = false ∧ c.status argv disk = 0

end Completion

/-! ## A program whose output goes into a file -/

section

variable {host : Host} {argv : List Text} {place : Location}

namespace Host

theorem perform_file_disk (c : Completion) (timeout : Option Binary64) :
    (host.perform argv timeout (.file place) c).2.disk =
      ((writeArguments argv c.writes host.disk).2.writeAt place (c.stdout ++ c.stderr)).2 := by
  unfold perform
  simp only [apply_ite Prod.snd, ite_self]

theorem perform_file_outcome (c : Completion) (timeout : Option Binary64) :
    (host.perform argv timeout (.file place) c).1 =
      if host.platform.relaysOutput = true →
          ((writeArguments argv c.writes host.disk).2.writeAt place (c.stdout ++ c.stderr)).1 then
        .ok (if timeout.any (· < c.seconds) then .timedOut
          else .exited (c.status argv host.disk) c.stdout c.stderr)
      else .error (.os (.errno .noSpace none)) := by
  unfold perform Completion.status
  dsimp only
  cases host.platform.relaysOutput
  case false => cases timeout.any (· < c.seconds) <;> rfl
  case true =>
    cases ((writeArguments argv c.writes host.disk).2.writeAt place (c.stdout ++ c.stderr)).1
    · rfl
    · cases timeout.any (· < c.seconds) <;> rfl

/-- **What is in an opened file when the program is done**: all that it has printed, and nothing
that was there before. -/
theorem at?_start_of_file (hground : host.disk.IsGrounded) (hwords : WordsHaveOctets argv)
    (hempty : host.disk.top.at? place = some (.file []))
    (hspared : ∀ c, host.launch? (argv.headD "") = some (.completed c) →
      ¬ c.Reaches argv host.disk place) (timeout : Option Binary64) :
    (host.start argv timeout (.file place)).2.disk.top.at? place =
      some (.file (Launch.printed (host.launch? (argv.headD "")))) := by
  rw [host.start_of_launch? _ _ hwords]
  cases hnext : host.launch? (argv.headD "") with
  | none => exact hempty
  | some launch =>
    cases launch with
    | refused e => exact hempty
    | completed c =>
      rw [limitError?_file]
      dsimp only
      have hkept := at?_writeArguments_of_not_reaches hground (hspared c hnext) hempty
      rw [perform_file_disk]
      dsimp only [note]
      rw [writeAt_of_empty hkept]
      exact Node.at?_graft_self hkept _

end Host

/-- A task is content with a program that ends well, and whose output is taken if it is handed over
to be written. -/
theorem ProcessTask.verdict_start_file_iff (task : ProcessTask) (hground : host.disk.IsGrounded)
    (hwords : WordsHaveOctets argv) (hsome : host.disk.top.at? place ≠ none) :
    task.verdict (host.start argv task.timeout (.file place)).1 = .ok () ↔
      (host.platform.relaysOutput = true →
        host.disk.top.outlineAt place = some (.file [])) ∧
        ∃ c, host.launch? (argv.headD "") = some (.completed c) ∧
          c.EndsWell argv task.timeout host.disk := by
  rw [host.start_of_launch? _ _ hwords]
  cases hnext : host.launch? (argv.headD "") with
  | none => simp [verdict]
  | some launch =>
    cases launch with
    | refused e => simp [verdict]
    | completed c =>
      have htaken := (writeArguments argv c.writes host.disk).2.writeAt_taken_iff place
        (c.stdout ++ c.stderr)
      rw [(addsFiles_writeArguments argv c.writes hground).kept place hsome] at htaken
      rw [Host.limitError?_file]
      dsimp only [Host.note]
      rw [Host.perform_file_outcome, ← htaken]
      dsimp only
      unfold Completion.EndsWell
      by_cases htook : host.platform.relaysOutput = true →
        ((writeArguments argv c.writes host.disk).2.writeAt place (c.stdout ++ c.stderr)).1 = true
      case neg => simp [verdict, htook]
      case pos =>
        rw [if_pos htook]
        cases htime : task.timeout.any (· < c.seconds)
        · by_cases hstatus : c.status argv host.disk = 0
          · simpa [verdict, htime, hstatus] using htook
          · simp [verdict, htime, hstatus]
        · simp [verdict, htime]

end

/-! ## The run of a task -/

namespace ProcessTask

variable {task : ProcessTask} {context : Context} {s : Session} {place : Location} {disk : Disk}

/-- A program that does not write its own file is told its arguments as they are. -/
theorem argv_of_not_ownFile (hown : task.ownFile = false) (target : Path) :
    task.argv target = task.executable :: task.arguments.words := by
  simp [argv, hown]

/-- A program whose output is redirected is started and judged once its artifact is opened. -/
theorem settle_run_of_opened (hown : task.ownFile = false)
    (hopened : s.host.disk.openForWriting (context.artifactPath task.output) = .ok (place, disk)) :
    let target := context.artifactPath task.output
    let started := (s.withDisk disk).host.start (task.argv target) task.timeout (.file place)
    settle (task.run context) s =
      ((task.verdict started.1).map fun _ => target, (s.withDisk disk).withHost started.2) := by
  dsimp only
  unfold run
  dsimp only
  rw [if_neg (by simp [hown]), settle_bind, settle_openArtifact_of_ok hopened]
  dsimp only
  rw [settle_bind, settle_execute]
  rcases task.verdict _ with _ | _ <;> rfl

theorem settle_run_of_not_opened (hown : task.ownFile = false) {e : DiskError}
    (hrefused : s.host.disk.openForWriting (context.artifactPath task.output) = .error e) :
    settle (task.run context) s =
      (.error (e.toOpeningFault task.label (context.artifactPath task.output)), s) := by
  unfold run
  dsimp only
  rw [if_neg (by simp [hown]), settle_bind, settle_openArtifact_of_error hrefused]

/-- What a run comes to whose artifact was opened, on the disk that this left. -/
structure EndsRedirected (task : ProcessTask) (context : Context) (s : Session) (disk : Disk) :
    Prop where
  /-- One start of the program, with the words of its arguments. -/
  calls : (settle (task.run context) s).2.host.calls =
    s.host.calls ++ [.run (task.executable :: task.arguments.words) task.timeout .file]
  /-- The artifact holds what the program has printed, if it takes octets at all. -/
  content : s.host.disk.Takes (context.artifactPath task.output) →
    (settle (task.run context) s).2.host.disk.read (context.artifactPath task.output) =
      .ok (Launch.printed (s.host.launch? task.executable))
  /-- The program ends in time and with a status of zero, and the artifact takes what is handed over
  to be written. -/
  returns : (settle (task.run context) s).1 = .ok (context.artifactPath task.output) ↔
    (s.host.platform.relaysOutput = true →
      s.host.disk.Takes (context.artifactPath task.output)) ∧
      ∃ c, s.host.launch? task.executable = some (.completed c) ∧
        c.EndsWell (task.executable :: task.arguments.words) task.timeout disk
  /-- A run that does not return ends with the task's own error about its program. -/
  fails : (settle (task.run context) s).1 = .ok (context.artifactPath task.output) ∨
    ∃ cause : TaskCause, cause.kind = .process ∧
      (settle (task.run context) s).1 = .error (.task (.failed task.label cause))

theorem endsRedirected (hown : task.ownFile = false) (hground : s.IsGrounded)
    (hopened : s.host.disk.openForWriting (context.artifactPath task.output) = .ok (place, disk))
    (hwords : WordsHaveOctets (task.executable :: task.arguments.words))
    (hspared : ∀ c, s.host.launch? task.executable = some (.completed c) →
      ¬ c.Reaches (task.executable :: task.arguments.words) disk place) :
    task.EndsRedirected context s disk := by
  have hrun := settle_run_of_opened hown hopened
  dsimp only at hrun
  rw [argv_of_not_ownFile hown] at hrun
  obtain ⟨hadds, hlocate, -⟩ := openForWriting_found hground hopened
  have hdisk : (s.withDisk disk).host.disk.IsGrounded := hadds.isGrounded hground
  have hverdict : task.verdict ((s.withDisk disk).host.start
      (task.executable :: task.arguments.words) task.timeout (.file place)).1 = .ok () ↔ _ :=
    task.verdict_start_file_iff hdisk hwords (at?_ne_none_of_opened hground hopened)
  refine ⟨?_, fun htakes => ?_, ?_, ?_⟩
  · rw [hrun]
    exact Host.start_calls _ _ _ _
  · have hempty := at?_of_opened hground hopened htakes
    -- The path led to the opened file, and what the program does adds files at the most.
    have hextends := @Session.extends_answer (s.withDisk disk) hdisk
      (.start (task.executable :: task.arguments.words) task.timeout (.file place))
    rw [hrun]
    exact read_of_locate (Extends.locate hextends hlocate)
      (Host.at?_start_of_file hdisk hwords hempty hspared task.timeout)
  · rw [hrun, takes_iff_of_opened hground hopened]
    refine Iff.trans ?_ hverdict
    dsimp only
    cases task.verdict _ <;> simp [Except.map]
  · rw [hrun]
    rcases task.verdict_start_cases (.file place) hwords nofun (s.withDisk disk).host with
      hok | ⟨cause, hkind, herror⟩
    · left
      rw [hok]
      rfl
    · right
      refine ⟨cause, hkind, ?_⟩
      rw [herror]
      rfl

/-- A word without octets ends the run once the artifact was opened, and no task expects that. -/
theorem settle_run_of_opened_argvFault? (hown : task.ownFile = false)
    (hopened : s.host.disk.openForWriting (context.artifactPath task.output) = .ok (place, disk))
    {fault : Fault}
    (hfault : Host.argvFault? (task.executable :: task.arguments.words) = some fault) :
    (∀ e, fault ≠ .task e) ∧
      settle (task.run context) s = (.error fault, (s.withDisk disk).withHost
        ((s.withDisk disk).host.note
          (.run (task.executable :: task.arguments.words) task.timeout .file))) := by
  rw [settle_run_of_opened hown hopened, argv_of_not_ownFile hown,
    Host.start_of_argvFault? _ _ _ hfault]
  rcases Host.argvFault?_cases hfault with ⟨e, rfl⟩ | rfl
  · exact ⟨nofun, rfl⟩
  · exact ⟨nofun, rfl⟩

/-- **Running a program whose output is the artifact.** If the path of the artifact has no octets,
the run ends with a fault that is no error of the task. If it has, and the artifact cannot be
opened, the run ends with the task's error about that. Either way the session is as it was, so no
program was started. If the artifact was opened and a word of the command line has no octets, the
start is asked for in vain, and the run ends with a fault that is no error of the task. If all have
octets, the program is started once; the artifact then holds exactly what it has printed, if it
takes octets; the run returns exactly if the program ends well (and its output is taken, where that
is handed over to be written), and otherwise it ends with the task's error about the program. -/
theorem run_redirected (hown : task.ownFile = false) (context : Context) (hground : s.IsGrounded) :
    (¬ (context.artifactPath task.output).HasOctets →
      ∃ fault, settle (task.run context) s = (.error fault, s) ∧ ∀ e, fault ≠ .task e) ∧
    ((context.artifactPath task.output).HasOctets → ∀ e,
      s.host.disk.openForWriting (context.artifactPath task.output) = .error e →
        ∃ fault, settle (task.run context) s = (.error (.task (.failed task.label
          (.notCreated (context.artifactPath task.output) fault))), s)) ∧
    ∀ place disk,
      s.host.disk.openForWriting (context.artifactPath task.output) = .ok (place, disk) →
      (∀ fault, Host.argvFault? (task.executable :: task.arguments.words) = some fault →
        (∀ e, fault ≠ .task e) ∧
          settle (task.run context) s = (.error fault, (s.withDisk disk).withHost
            ((s.withDisk disk).host.note
              (.run (task.executable :: task.arguments.words) task.timeout .file)))) ∧
      (WordsHaveOctets (task.executable :: task.arguments.words) →
        (∀ c, s.host.launch? task.executable = some (.completed c) →
          ¬ c.Reaches (task.executable :: task.arguments.words) disk place) →
            task.EndsRedirected context s disk) := by
  refine ⟨fun hnot => ?_, fun hoctets e hrefused => ?_, fun place disk hopened =>
    ⟨fun fault hfault => settle_run_of_opened_argvFault? hown hopened hfault,
      fun hwords hspared => endsRedirected hown hground hopened hwords hspared⟩⟩
  · obtain ⟨e, hnos, hlocate⟩ := exists_locate_of_not_hasOctets hnot
    have hrefused : s.host.disk.openForWriting (context.artifactPath task.output) = .error e := by
      unfold openForWriting
      rw [hlocate]
    refine ⟨_, settle_run_of_not_opened hown hrefused, fun error => ?_⟩
    cases e with
    | os fault => exact absurd rfl (hnos fault)
    | unencodable e => exact nofun
    | embeddedNul => exact nofun
  · obtain ⟨fault, rfl⟩ := os_of_openForWriting hoctets hrefused
    exact ⟨fault, settle_run_of_not_opened hown hrefused⟩

namespace Example

/-- A program whose output is the artifact. -/
def printer (output : Text) : ProcessTask :=
  ⟨"p", "-x", output, false, none⟩

def stage : Context :=
  ⟨Path.ofText "s", .service, "A", 1, 0⟩

/-- The program prints one octet to each of its outputs and ends badly. In the staging directory is
a longer file `a`. -/
def printing : Session where
  host :=
    { disk := ⟨.directory [([0x73], .directory [([0x61], .file [0x39, 0x39, 0x39])])], [], []⟩
      programs := fun name =>
        if name = "p" then some fun _ => .completed ⟨false, [], [0x31], [0x32], 0, 3⟩ else none
      started := fun _ => 0
      answers := fun _ _ => .text ""
      asked := fun _ => 0
      cancelled := false
      calls := [] }
  failures := []

end Example

open ProcessTask.Example

/-- The artifact holds both outputs and nothing of what was there, though the run fails. -/
theorem run_redirected_printing :
    (printer "a").ownFile = false ∧ printing.IsGrounded ∧
      (∃ disk, (printer "a").EndsRedirected stage printing disk) ∧
      (settle ((printer "a").run stage) printing).1 =
        .error (.task (.failed "p -x" (.exitStatus 3))) ∧
      (settle ((printer "a").run stage) printing).2.host.disk.read (Path.ofText "s/a") =
        .ok [0x31, 0x32] := by
  have hground : printing.IsGrounded := ⟨_, rfl⟩
  obtain ⟨disk, hopened⟩ : ∃ disk, printing.host.disk.openForWriting
      (stage.artifactPath (printer "a").output) = .ok ([[0x73], [0x61]], disk) := ⟨_, rfl⟩
  have hspared : ∀ c, printing.host.launch? (printer "a").executable = some (.completed c) →
      ¬ c.Reaches ((printer "a").executable :: (printer "a").arguments.words) disk
        [[0x73], [0x61]] := by
    intro c hc
    cases hc
    rintro ⟨write, hwrite, -⟩
    exact absurd hwrite List.not_mem_nil
  have hends := (((printer "a").run_redirected rfl stage hground).2.2 _ disk hopened).2 (by decide)
    hspared
  have htakes : printing.host.disk.Takes (stage.artifactPath (printer "a").output) :=
    @Takes.found _ _ [[0x73], [0x61]] [0x39, 0x39, 0x39] rfl rfl
  exact ⟨rfl, hground, ⟨disk, hends⟩, rfl, hends.content htakes⟩

/-- A surrogate in the name of the artifact, and no U+0000: the artifact cannot be opened, and what
the run ends with is no error of the task. It is the same with a surrogate in the arguments: the
artifact is opened, and the program cannot be started. -/
theorem run_redirected_unencodable :
    let named := printer [⟨0xD800, by decide⟩]
    let told : ProcessTask := { printer "a" with arguments := [⟨0xD800, by decide⟩] }
    (∀ task ∈ [named, told], ∀ word ∈ task.output :: task.executable :: task.arguments.words,
        CodePoint.ofChar '\x00' ∉ word) ∧
      (∃ e, printing.host.disk.openForWriting (stage.artifactPath named.output) = .error e) ∧
      (¬ ∃ e, (settle (named.run stage) printing).1 = .error (.task e)) ∧
      (∃ opened, printing.host.disk.openForWriting (stage.artifactPath told.output) =
        .ok opened) ∧
      ¬ ∃ e, (settle (told.run stage) printing).1 = .error (.task e) := by
  dsimp only
  refine ⟨by decide, ⟨_, rfl⟩, ?_, ⟨_, rfl⟩, ?_⟩
  · have hends : (settle ((printer [⟨0xD800, by decide⟩]).run stage) printing).1 =
        .error (.unencodable ⟨⟨0xD800, by decide⟩, 2, 1⟩) := rfl
    rintro ⟨e, h⟩
    rw [hends] at h
    cases h
  · have hends : (settle (ProcessTask.run
        { printer "a" with arguments := [⟨0xD800, by decide⟩] } stage) printing).1 =
        .error (.unencodable ⟨⟨0xD800, by decide⟩, 0, 1⟩) := rfl
    rintro ⟨e, h⟩
    rw [hends] at h
    cases h

end ProcessTask

end Diagnostics
