import Diagnostics.Proofs.Disk.Made
import Diagnostics.Proofs.FanOut.Independence
import Diagnostics.Proofs.Gather.Run
import Diagnostics.Proofs.Report.Written
import Diagnostics.Proofs.Writing

/-!
# What a run leaves on the disk

If programs write no files by themselves, and nothing is in the staging directory once the run has
made it, then a run adds to the disk and changes nothing that was there: it makes the staging
directory and the missing ones on the way to it, and in it writes the report and the artifacts that
its tasks open (`GatherRun.write_frame`). So all places are accounted for, whatever names the
catalog holds.

The second supposition is about paths: the path `new/..` leads nowhere before `new` is made, and
then to a directory that may hold links to anywhere.
-/

set_option autoImplicit false

namespace Diagnostics

open Diagnostics.Action Disk

namespace GatherRun

section

variable {env : Environment} {backend : Option Backend} {request : GatherRequest} {host : Host}
  {home : Location}

/-- A file name is spelled by an artifact that a task of the run opens. -/
def Opens (run : GatherRun env backend request host) (name : FileName) : Prop :=
  ∃ group ∈ run.selected, group.Opens name

/-- A file name is that of a file that the run writes: an artifact or the report. -/
def Writes (run : GatherRun env backend request host) (name : FileName) : Prop :=
  run.Opens name ∨ Text.Utf8.encodeName (RunReport.fileName : Text) = .ok name

/-- What has become of a place in a run with a staging directory. -/
inductive Leaves (run : GatherRun env backend request host) (home : Location) (before after : Disk)
    (place : Location) : Prop
  | same (hview : after.top.view place = before.top.view place)
  /-- Nothing was there, and now it is the staging directory, or one on the way to it. -/
  | made (path : Path) (hbefore : before.top.at? place = none)
      (hafter : after.top.view place = some (.directory []))
      (hway : run.settings.staging.LeadsThrough path)
      (hlocate : after.locate ⟨true, false⟩ path = .ok (.found place))
  /-- Nothing was there, and now it is a file of the staging directory. -/
  | written (name : FileName) (content : List UInt8) (hbefore : before.top.at? place = none)
      (hafter : after.top.at? place = some (.file content)) (hplace : place = home ++ [name])
      (hname : run.Writes name)

variable (run : GatherRun env backend request host)

/-- Making the staging directory is all that happens before the groups begin. -/
theorem prepared_eq : (⟨host, []⟩ : Session).prepared run.context = run.begun := by
  show ((ensureDirectories run.settings.staging).settle ⟨host, []⟩).2 = run.begun
  rw [run.made]

theorem begun_host : run.begun.host =
    { host with disk := (host.disk.ensureDirectories run.settings.staging).2 } := by
  rw [← run.prepared_eq]
  rfl

theorem emptyAt_begun (hstages : (⟨host, []⟩ : Session).StagesEmpty run.context home) :
    run.begun.host.disk.EmptyAt run.context.staging home := by
  rw [← run.prepared_eq]
  exact hstages.emptyAt

theorem writesNothing_begun (hwrites : host.WritesNothing) : run.begun.host.WritesNothing := by
  rw [run.begun_host]
  exact hwrites

theorem made_begun (hground : host.disk.IsGrounded) :
    Made run.settings.staging.LeadsThrough host.disk run.begun.host.disk := by
  rw [run.begun_host]
  exact made_of_ensureDirectories hground run.settings.staging

/-- When all workers are joined, the disk is one of the run, and only artifacts were written. -/
theorem staged_ended (hempty : run.begun.host.disk.EmptyAt run.context.staging home)
    (hwrites : run.begun.host.WritesNothing) :
    run.begun.host.Staged home run.ended.session.host ∧
      AgreeOn (fun name => ¬ run.Opens name) home run.ended.session.host.disk
        run.begun.host.disk := by
  have hinitial : (FanOut.initial run.selected run.begun).WritesTo run.begun.host run.context home
      fun _ => run.Opens :=
    FanOut.writesTo_initial hempty fun group hgroup task htask =>
      ((run.selected_ok.1 group hgroup).writesTo task htask).mono fun _ hname =>
        ⟨group, hgroup, hname⟩
  obtain ⟨hended, hagree⟩ := hinitial.of_steps hempty hwrites run.steps fun _ _ hspared => hspared
  exact ⟨hended.session, hagree⟩

/-- The report is the last file that a run writes, and no other file is written by then. -/
theorem staged_outcome (hempty : run.begun.host.disk.EmptyAt run.context.staging home)
    (hwrites : run.begun.host.WritesNothing) :
    run.begun.host.disk.Staged home run.outcome.2.disk ∧
      AgreeOn (fun name => ¬ Text.Utf8.encodeName (RunReport.fileName : Text) = .ok name) home
        run.outcome.2.disk run.ended.session.host.disk := by
  have hstaged := (run.staged_ended hempty hwrites).1.disk
  have hreport : run.begun.host.disk.KeepsTo home
      (fun name => Text.Utf8.encodeName (RunReport.fileName : Text) = .ok name)
      (run.ended.report.write (run.settings.staging.child RunReport.fileName)) :=
    RunReport.keepsTo_write hempty run.ended.report fun _ hname => hname
  exact ⟨hreport.staged hstaged, hreport.spares hempty hstaged⟩

/-- Only the artifacts and the report are written. -/
theorem staged_left (hempty : run.begun.host.disk.EmptyAt run.context.staging home)
    (hwrites : run.begun.host.WritesNothing) :
    run.begun.host.disk.Staged home run.outcome.2.disk ∧
      AgreeOn (fun name => ¬ run.Writes name) home run.outcome.2.disk run.begun.host.disk := by
  obtain ⟨-, hagree⟩ := run.staged_ended hempty hwrites
  obtain ⟨hstaged, hspares⟩ := run.staged_outcome hempty hwrites
  exact ⟨hstaged, (hspares.mono fun _ hname hreport => hname (Or.inr hreport)).trans
    (hagree.mono fun _ hname hopens => hname (Or.inl hopens))⟩

/-- **What a run leaves on the disk.** If programs write no files by themselves and nothing is in
the staging directory once it is made, then at every place the same is seen as before the run, or
nothing was there, and now it is a directory that the staging path leads to or through, or a file in
the staging directory that is the report or an artifact that a task opened. -/
theorem write_frame (hground : host.disk.IsGrounded)
    (hstages : (⟨host, []⟩ : Session).StagesEmpty run.context home)
    (hwrites : host.WritesNothing) :
    run.outcome.2.disk.workingDirectory = host.disk.workingDirectory ∧
      run.outcome.2.disk.unlistable = host.disk.unlistable ∧
      run.outcome.2.disk.locate ⟨true, false⟩ run.settings.staging = .ok (.found home) ∧
      ∀ place, run.Leaves home host.disk run.outcome.2.disk place := by
  have hempty := run.emptyAt_begun hstages
  have hmade := run.made_begun hground
  obtain ⟨hstaged, hagree⟩ := run.staged_left hempty (run.writesNothing_begun hwrites)
  have hleft := hstaged
  obtain ⟨entries, -, hdisk⟩ := hstaged
  refine ⟨?_, ?_, ?_, fun place => ?_⟩
  · rw [hdisk]
    exact hmade.workingDirectory
  · rw [hdisk]
    exact hmade.unlistable
  · rw [hdisk]
    exact hempty.located_withEntries entries
  · rcases hleft.view_eq_or_file hempty place with hview | ⟨name, content, rfl, hafter, hbegun⟩
    · -- Since the groups began, nothing has become of the place.
      by_cases hbefore : host.disk.top.at? place = none
      · by_cases hbegun : run.begun.host.disk.top.at? place = none
        · refine .same (hview.trans ?_)
          rw [(Node.at?_eq_none_iff_view place).mp hbegun,
            (Node.at?_eq_none_iff_view place).mp hbefore]
        · obtain ⟨hdirectory, path, hway, hlocate⟩ := hmade.made place hbefore hbegun
          refine .made path hbefore (hview.trans hdirectory) hway ?_
          rw [hdisk]
          exact hempty.locate_withEntries hlocate entries
      · exact .same (hview.trans (hmade.kept place hbefore))
    · refine .written name content ?_ hafter rfl ?_
      · exact Classical.byContradiction fun hbefore => hmade.at?_ne_none hbefore hbegun
      · refine Classical.byContradiction fun hname => ?_
        have hsame := hagree name hname
        rw [hafter, hbegun] at hsame
        cases hsame

end

namespace Example

def printed : List UInt8 :=
  catalog [("A", [task "process" (program "one" "a")])]

def plain : Host :=
  machine printed [] (printing "one" 0x31)

/-- On this machine the name of the artifact is that of a link into another directory. -/
def linked : Host :=
  machine printed [([0x61], .link [0x6F, 0x2F, 0x66]),
    ([0x6F], .directory [([0x66], .file [0x78])])] (printing "one" 0x31)

/-- On this machine nothing is at the path `s`. -/
theorem stagesEmpty_plain (run : GatherRun (fun _ => none) none (request "s") plain) :
    (⟨plain, []⟩ : Session).StagesEmpty run.context [[0x73]] := by
  have hstaging : run.context.staging = Path.ofText "s" := run.staging_eq rfl
  refine .foreseen "s" hstaging ?_ ⟨_, rfl⟩ (Or.inl ?_) (congrArg Prod.fst run.made) ?_
  · rw [hstaging]
    decide +kernel
  · rw [hstaging]
    decide +kernel
  · unfold Session.prepared
    rw [hstaging]
    decide +kernel

end Example

open GatherRun.Example

/-- A staging directory that was absent holds an artifact in the end, and all places are accounted
for. -/
theorem write_frame_plain :
    ∃ run : GatherRun (fun _ => none) none (request "s") plain,
      fileAt run.outcome.2.disk [[0x73], [0x61]] = some [0x31] ∧
        ∀ place, run.Leaves [[0x73]] plain.disk run.outcome.2.disk place := by
  obtain ⟨run, result, -, hresult, hleft⟩ :=
    @exists_gatherRun_of_isOk (fun _ => none) none (request "s") plain (by decide +kernel)
  obtain ⟨-, -, -, hframe⟩ :=
    run.write_frame ⟨_, rfl⟩ (stagesEmpty_plain run) (writesNothing_printing _ _ _ _)
  refine ⟨run, ?_, hframe⟩
  rw [hleft]
  decide +kernel

/-- With a staging directory `new/..` nothing is at the path before the run, and once `new` is made
it leads to the directory around it. There the name of an artifact is that of a link, and the run
changes a file that the link leads to. -/
theorem write_frame_fails_through_parent :
    linked.disk.IsGrounded ∧ linked.WritesNothing ∧
      linked.disk.locate ⟨true, false⟩ (Path.ofText "new/..") =
        .error (refusal .noEntry (Path.ofText "new/..")) ∧
      ∃ (run : GatherRun (fun _ => none) none (request "new/..") linked) (result : GatherResult),
        run.outcome.1 = .ok result ∧
          fileAt linked.disk [[0x6F], [0x66]] = some [0x78] ∧
          fileAt run.outcome.2.disk [[0x6F], [0x66]] = some [0x31] ∧
          ∀ home, ¬ run.Leaves home linked.disk run.outcome.2.disk [[0x6F], [0x66]] := by
  obtain ⟨run, result, -, hresult, hleft⟩ :=
    @exists_gatherRun_of_isOk (fun _ => none) none (request "new/..") linked (by decide +kernel)
  have hafter : fileAt run.outcome.2.disk [[0x6F], [0x66]] = some [0x31] := by
    rw [hleft]
    decide +kernel
  refine ⟨⟨_, rfl⟩, writesNothing_printing _ _ _ _, by decide +kernel, run, result,
    hresult, rfl, hafter, ?_⟩
  rintro home (hview | ⟨_, hnone, -⟩ | ⟨_, _, hnone, -⟩)
  · -- The same is not seen: the file has another content.
    unfold fileAt at hafter
    rw [hview] at hafter
    cases hafter
  · cases hnone
  · cases hnone

end GatherRun

end Diagnostics
