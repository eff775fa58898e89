import Diagnostics.Proofs.Task.Destination
import Diagnostics.Proofs.Text.Pieces
import Diagnostics.Proofs.Text.Words

/-!
# The arguments of a program that writes its own file

Such a program is told where to write: its arguments are the words between the blanks of the task's
arguments, and in each of them the path of the artifact stands where the output is named
(`ProcessTask.argv_of_ownFile`). The words are taken apart first. So a path with blanks in it does
not make more arguments, and what was put in is not looked at again.

The price is that a name is only seen within a word. An output with a blank in it is accepted by a
catalog and can be written down among the arguments, but it is in none of their words, and the
program is not told the path. `Catalog.told_where_to_write` says that this is the only case.
-/

set_option autoImplicit false

namespace Diagnostics

/-- What becomes of a word: it is cut where the name occurs, leftmost occurrences first, and the
pieces are joined by the replacement. -/
structure Text.Renames (name replacement word argument : Text) : Prop where
  cut : ∃ pieces, CutAt name word pieces ∧ word = join name pieces ∧
    (∀ piece ∈ pieces, ¬ name <:+: piece) ∧ argument = join replacement pieces
  unchanged : ¬ name <:+: word → argument = word

theorem Text.renames_replaceName {name : Text} (hne : name ≠ []) (replacement word : Text) :
    Renames name replacement word (replaceName name replacement word) where
  cut := by
    have hcut := cutAt_pieces hne word
    exact ⟨pieces name word, hcut, hcut.join_eq.symm, hcut.not_infix hne, rfl⟩
  unchanged := replaceName_of_not_infix

namespace ProcessTask

variable {task : ProcessTask}

theorem argv_eq (hown : task.ownFile = true) (target : Path) :
    task.argv target =
      task.executable :: task.arguments.words.map (Text.replaceName task.output target.text) := by
  simp [argv, hown]

/-- **The arguments of a program that writes its own file.** The executable stays as it is. There is
one argument for each word of the task's arguments, whatever the path is: the word, cut where the
output is named, with the path between the pieces. -/
theorem argv_of_ownFile (hown : task.ownFile = true) (hname : task.output ≠ []) (target : Path) :
    ∃ arguments, task.argv target = task.executable :: arguments ∧
      List.Forall₂ (Text.Renames task.output target.text)
        ((Text.splitAtEach Text.isBlank task.arguments).filter (· ≠ [])) arguments := by
  refine ⟨_, argv_eq hown target, ?_⟩
  rw [← Text.words_eq, List.forall₂_map_right_iff, List.forall₂_same]
  intro word _
  exact Text.renames_replaceName hname target.text word

namespace Example

/-- A program whose output overlaps itself, and that names it more than once in a word. -/
def overlapping : ProcessTask := ⟨"p", " aaaxaa\t/o:aa b", "aa", true, none⟩

/-- A path that has a blank in it and names the output again. -/
def spaced : Path := Path.ofText "a b/aa"

end Example

/-- The words stay three, the leftmost occurrences are replaced, and those in the path are not. -/
theorem argv_of_ownFile_overlapping :
    Example.overlapping.ownFile = true ∧ Example.overlapping.output ≠ [] ∧
      Example.overlapping.argv Example.spaced =
        (["p", "a b/aaaxa b/aa", "/o:a b/aa", "b"] : List Text) ∧
      List.Forall₂ (Text.Renames "aa" "a b/aa") (["aaaxaa", "/o:aa", "b"] : List Text)
        (["a b/aaaxa b/aa", "/o:a b/aa", "b"] : List Text) := by
  have hname : Example.overlapping.output ≠ [] := by decide
  obtain ⟨arguments, hargv, hwords⟩ := argv_of_ownFile rfl hname Example.spaced
  have htold : Example.overlapping.argv Example.spaced =
      (["p", "a b/aaaxa b/aa", "/o:a b/aa", "b"] : List Text) := by
    decide +kernel
  have hsplit : (Text.splitAtEach Text.isBlank Example.overlapping.arguments).filter (· ≠ []) =
      (["aaaxaa", "/o:aa", "b"] : List Text) := by
    decide +kernel
  have htext : Example.spaced.text = "a b/aa" := by decide +kernel
  obtain rfl := (List.cons.inj (htold.symm.trans hargv)).2
  rw [hsplit, htext] at hwords
  exact ⟨rfl, hname, htold, hwords⟩

/-! ## Who is told the path -/

/-- A word that names the output becomes an argument with the path in it. -/
theorem exists_told_of_word (hown : task.ownFile = true) (hname : task.output ≠ []) {word : Text}
    (hword : word ∈ task.arguments.words) (hmention : task.output <:+: word) (target : Path) :
    ∃ argument ∈ (task.argv target).tail, target.text <:+: argument := by
  rw [argv_eq hown, List.tail_cons]
  exact ⟨_, List.mem_map_of_mem hword, Text.infix_replaceName hname hmention⟩

/-- An output that no word names changes nothing in the arguments. -/
theorem argv_of_unnamed (hown : task.ownFile = true)
    (hunnamed : ∀ word ∈ task.arguments.words, ¬ task.output <:+: word) (target : Path) :
    task.argv target = task.executable :: task.arguments.words := by
  rw [argv_eq hown]
  refine congrArg (task.executable :: ·) ?_
  conv_rhs => rw [← List.map_id task.arguments.words]
  apply List.map_congr_left
  intro word hword
  exact Text.replaceName_of_not_infix (hunnamed word hword)

end ProcessTask

namespace Catalog

variable {document : Json} {groups : List Group} {group : Group} {task : Task}
  {program : ProcessTask}

/-- **A program that writes its own file is told where to**, if its arguments name the output and no
blank is in that name: whatever the path, one of the arguments has it. With a blank in its name, no
argument has the path of the artifact. -/
theorem told_where_to_write (hparse : parse document = .ok groups) (hgroup : group ∈ groups)
    (htask : task ∈ group.tasks) (hprogram : program ∈ task.processes)
    (hown : program.ownFile = true) (hmention : program.output <:+: program.arguments) :
    ((∀ c ∈ program.output, Text.isBlank c = false) → ∀ target : Path,
      ∃ argument ∈ (program.argv target).tail, target.text <:+: argument) ∧
    ∀ context : Context,
      (∃ argument ∈ (program.argv (context.artifactPath program.output)).tail,
        (context.artifactPath program.output).text <:+: argument) ↔
          ∀ c ∈ program.output, Text.isBlank c = false := by
  have hbare : IsBareName program.output := by
    rw [Task.output_of_mem_processes hprogram]
    exact ((parse_ok hparse).1 group hgroup).isBareName _ (List.mem_map_of_mem htask)
  have htold : (∀ c ∈ program.output, Text.isBlank c = false) → ∀ target : Path,
      ∃ argument ∈ (program.argv target).tail, target.text <:+: argument := by
    intro hblank target
    obtain ⟨word, hword, hnamed⟩ := Text.exists_word_of_infix hbare.isOneName.1 hblank hmention
    exact ProcessTask.exists_told_of_word hown hbare.isOneName.1 hword hnamed target
  refine ⟨htold, fun context => ⟨?_, fun hblank => htold hblank _⟩⟩
  rintro ⟨argument, hargument, hpath⟩
  by_contra hnot
  -- No word names the output, so the argument is a word, but the path in it ends with the output.
  have hunnamed : ∀ word ∈ program.arguments.words, ¬ program.output <:+: word := by
    intro word hword hnamed
    exact hnot fun c hc => Text.not_isBlank_of_mem_words hword c (hnamed.subset hc)
  rw [ProcessTask.argv_of_unnamed hown hunnamed, List.tail_cons] at hargument
  obtain ⟨front, htext⟩ := context.staging.exists_child_text program.output
  rw [Context.artifactPath, hbare.join_eq_child, htext] at hpath
  exact hunnamed argument hargument ((List.suffix_append front _).isInfix.trans hpath)

/-- The stop phase of a capture is told the path of its artifact, also where that has a blank. -/
theorem told_where_to_write_capture :
    parse (Example.captureCatalog "") = .ok [Example.traceGroup ""] ∧
      (Example.captureTask "").stop.ownFile = true ∧
      Text.ofString "trace.etl" <:+: (Example.captureTask "").stop.arguments ∧
      ∃ argument ∈ ((Example.captureTask "").stop.argv (Path.ofText "my stage/trace.etl")).tail,
        (Path.ofText "my stage/trace.etl").text <:+: argument := by
  have hparse : parse (Example.captureCatalog "") = .ok [Example.traceGroup ""] := rfl
  have hmention : Text.ofString "trace.etl" <:+: (Example.captureTask "").stop.arguments := by
    decide
  have hstop : (Example.captureTask "").stop ∈
      (Task.capture (Example.captureTask "")).processes := by
    simp [Task.processes]
  obtain ⟨htold, -⟩ := told_where_to_write hparse (List.mem_singleton_self _)
    (List.mem_singleton_self _) hstop rfl hmention
  exact ⟨hparse, rfl, hmention, htold (by decide) _⟩

/-- A catalog of one program that writes a file with a blank in its name. -/
def reporting : Json :=
  .object [("groups", .array [.object [("name", .text "A"), ("tasks", .array [.object
    [("type", .text "process"), ("executable", .text "tool"), ("args", .text "/o my report"),
      ("output", .text "my report"), ("produces_own_file", .bool true)]])]])]

def reporter : ProcessTask := ⟨"tool", "/o my report", "my report", true, none⟩

/-- It is accepted, and its arguments name the output, but no word of the command line has the path
of the artifact. -/
theorem not_told_where_to_write :
    parse reporting = .ok [⟨"A", false, .tasks [.process reporter]⟩] ∧
      reporter.output <:+: reporter.arguments ∧
      ¬ ∃ argument ∈ reporter.argv (Path.ofText "s/my report"),
        (Path.ofText "s/my report").text <:+: argument := by
  refine ⟨rfl, by decide, by decide +kernel⟩

end Catalog

end Diagnostics
