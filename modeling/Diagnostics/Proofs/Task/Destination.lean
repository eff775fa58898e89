import Diagnostics.Proofs.Catalog.Unique
import Diagnostics.Proofs.Disk.Artifact
import Diagnostics.Proofs.Path.Written
import Diagnostics.Proofs.Task.Capture

/-!
# Where artifacts go

The artifact of a task is to be an entry of the staging directory (`Path.IsEntryOf`), and a program
that writes it by itself is to be told the path of that entry. The reader of catalogs takes for an
output every text that is its own last part as a path. That rules out slashes and a single dot, and
so the path of the artifact is the staging directory's with the output behind it
(`IsBareName.isEntryOf_join_iff`). It does not rule out the double dot, which is a part like any
other and means the directory above.

**`Catalog.artifacts_in_staging_iff`** says this of every task of an accepted catalog.
-/

set_option autoImplicit false

namespace Diagnostics

open Diagnostics.Action

/-- A path is that of an entry of a directory: one name behind the directory's path, which is none
of the two that stand for directories, and no more than a name. -/
structure Path.IsEntryOf (path home : Path) : Prop where
  parent_eq : path.parent = home
  not_slash : ∀ c ∈ path.name, Text.isSlash c = false
  ne_dot : path.name ≠ "."
  ne_dots : path.name ≠ ".."

/-- The programs of a task are about its artifact. -/
theorem Task.output_of_mem_processes {task : Task} {program : ProcessTask}
    (h : program ∈ task.processes) : program.output = task.output := by
  cases task with
  | process task =>
    rw [List.mem_singleton.mp h]
    rfl
  | capture task =>
    simp only [processes, List.mem_cons, List.not_mem_nil, or_false] at h
    rcases h with rfl | rfl
    · exact task.sameOutput
    · rfl
  | query task => cases h
  | stub output fault => cases h

namespace IsBareName

variable {output : Text}

theorem ne_dot (h : IsBareName output) : output ≠ "." := by
  rintro rfl
  exact absurd h.2 (by decide)

/-- A bare name is an entry of the directory that it is joined to, unless it is the double dot. -/
theorem isEntryOf_join_iff (h : IsBareName output) (home : Path) :
    (home.join output).IsEntryOf home ↔ output ≠ ".." := by
  rw [h.join_eq_child]
  constructor
  · intro hentry
    simpa using hentry.ne_dots
  · intro hdots
    exact {
      parent_eq := Path.parent_child home output
      not_slash := by simpa using h.forall_not_slash
      ne_dot := by simpa using h.ne_dot
      ne_dots := by simpa using hdots }

theorem isNormal_join (h : IsBareName output) {home : Path} (hhome : home.IsNormal) :
    (home.join output).IsNormal := by
  rw [h.join_eq_child]
  refine hhome.child ?_ h.forall_not_slash
  have hne : output ≠ "" := h.isOneName.1
  simpa [Path.isPart] using ⟨hne, h.ne_dot⟩

end IsBareName

/-- A program that writes its own file is started once, with its own words. -/
theorem ProcessTask.callsOf_run_ownFile {task : ProcessTask} (h : task.ownFile = true)
    (context : Context) (s : Session) : callsOf (task.run context) s = [task.call context] := by
  unfold callsOf
  rw [task.settle_run_ownFile h context s]
  dsimp only
  rw [Session.withHost_host, Host.start_calls, List.drop_left]
  rfl

namespace Catalog

variable {document : Json} {groups : List Group} {group : Group} {task : Task}

/-- **Artifacts are put into the staging directory, or into the one above.** The path of an artifact
of an accepted catalog ends with the task's output, behind the path of the staging directory. It is
the path of an entry of that directory exactly if the output is not the double dot. A program that
writes its own file is started with a path that means the same, wherever its arguments name the
output. -/
theorem artifacts_in_staging_iff (hparse : parse document = .ok groups) (hgroup : group ∈ groups)
    (htask : task ∈ group.tasks) (context : Context) (hstaging : context.staging.IsNormal) :
    (context.artifactPath task.output).name = task.output ∧
      (context.artifactPath task.output).parent = context.staging ∧
      (∀ c ∈ task.output, Text.isSlash c = false) ∧ task.output ≠ "." ∧
      ((context.artifactPath task.output).IsEntryOf context.staging ↔ task.output ≠ "..") ∧
      ∀ program ∈ task.processes, program.ownFile = true →
        ∃ told, Path.ofText told = context.artifactPath task.output ∧
          ∀ s, callsOf (program.run context) s =
            [.run (program.executable ::
                program.arguments.words.map (Text.replaceName task.output told))
              program.timeout .discard] := by
  have hbare : IsBareName task.output :=
    ((parse_ok hparse).1 group hgroup).isBareName _ (List.mem_map_of_mem htask)
  have hnormal := hbare.isNormal_join hstaging
  have hentry := hbare.isEntryOf_join_iff context.staging
  unfold Context.artifactPath
  refine ⟨?_, ?_, hbare.forall_not_slash, hbare.ne_dot, hentry, ?_⟩
  · rw [hbare.join_eq_child, Path.name_child]
  · rw [hbare.join_eq_child, Path.parent_child]
  · intro program hprogram hown
    refine ⟨(context.staging.join task.output).text, hnormal.ofText_text, fun s => ?_⟩
    rw [ProcessTask.callsOf_run_ownFile hown, ProcessTask.call, ProcessTask.argvIn,
      ProcessTask.argv, if_pos hown, Task.output_of_mem_processes hprogram]
    rfl

/-- The artifact of a capture is an entry of the staging directory, and its phases are told so. -/
theorem artifacts_in_staging_capture :
    parse (Example.captureCatalog "") = .ok [Example.traceGroup ""] ∧
      (Example.stageContext.artifactPath "trace.etl").IsEntryOf (Path.ofText "stage") ∧
      ∃ told, Path.ofText told = Example.stageContext.artifactPath "trace.etl" ∧
        ∀ s, callsOf ((Example.captureTask "").stop.run Example.stageContext) s =
          [.run ("wpr" :: (Text.words "-stop trace.etl").map (Text.replaceName "trace.etl" told))
            none .discard] := by
  have hparse : parse (Example.captureCatalog "") = .ok [Example.traceGroup ""] := rfl
  obtain ⟨-, -, -, -, hentry, htold⟩ := artifacts_in_staging_iff hparse (List.mem_singleton_self _)
    (List.mem_singleton_self _) Example.stageContext (Path.isNormal_ofText _)
  exact ⟨hparse, hentry.mpr (by decide),
    htold (Example.captureTask "").stop (by simp [Task.processes]) rfl⟩

/-- A catalog of one program that archives what is in the directory that it is told. -/
def archiving : Json :=
  .object [("groups", .array [.object [("name", .text "A"), ("tasks", .array [.object
    [("type", .text "process"), ("executable", .text "tar"), ("args", .text "-cf a.tar .."),
      ("output", .text ".."), ("produces_own_file", .bool true)]])]])]

def archive : ProcessTask := ⟨"tar", "-cf a.tar ..", "..", true, none⟩

/-- It is accepted, and the path of its artifact is that of the directory above the staging
directory. -/
theorem artifact_above_staging :
    parse archiving = .ok [⟨"A", false, .tasks [.process archive]⟩] ∧
      ¬ (Example.stageContext.artifactPath archive.output).IsEntryOf (Path.ofText "stage") ∧
      archive.argvIn Example.stageContext = ["tar", "-cf", "a.tar", "stage/.."] := by
  refine ⟨rfl, fun hentry => ?_, by decide +kernel⟩
  exact hentry.ne_dots (by decide +kernel)

end Catalog

end Diagnostics
