import Diagnostics.Proofs.Catalog.Unique
import Diagnostics.Proofs.Disk.Prepared
import Diagnostics.Proofs.Disk.Same
import Diagnostics.Proofs.FanOut.Alone
import Diagnostics.Proofs.FanOut.Sequential
import Diagnostics.Proofs.Report.Order
import Diagnostics.Proofs.Task.Capture

/-!
# Independent groups commute

The catalog's checks keep the groups of a run apart: no name of a group and no name of an artifact
is used twice. What they cannot see is left as a supposition: that names which differ are not
spellings of one file name, that nothing stands in the staging directory when the groups begin, that
walks do not get there, and that what several groups start or ask for is steady. Then neither the
order in which groups are given nor the schedule matters: every run that joins all its workers has
the same document and leaves the same files, the report's own among them.
-/

set_option autoImplicit false

namespace Diagnostics

open Diagnostics.Action Disk

/-- The session once the staging directory was asked for. -/
def Session.prepared (s : Session) (context : Context) : Session :=
  ((ensureDirectories context.staging).settle s).2

/-- Why nothing is in the staging directory when the groups begin. -/
inductive Session.StagesEmpty (s : Session) (context : Context) (home : Location) : Prop
  /-- It is seen to be empty once it was asked for. -/
  | seen (hempty : (s.prepared context).host.disk.EmptyAt context.staging home)
  /-- It was absent or empty before, and its path does not go through a double dot. -/
  | foreseen (written : Text) (hpath : context.staging = Path.ofText written)
      (hdots : (".." : Text) ∉ context.staging.parts) (hground : s.host.disk.IsGrounded)
      (hbefore : s.host.disk.isDirectory context.staging = false ∨
        ∃ place, s.host.disk.EmptyAt context.staging place)
      (hgranted : ((ensureDirectories context.staging).settle s).1 = .ok ())
      (hhome : (s.prepared context).host.disk.locate ⟨true, false⟩ context.staging =
        .ok (.found home))

/-- What is supposed of groups and of the machine that they run on. -/
structure Independent (selected : List Group) (context : Context) (base : Host) (home : Location) :
    Prop where
  writes : base.WritesNothing
  /-- No walk gets to the staging directory. -/
  roots : ∀ group ∈ selected, ∀ roots, group.work = .roots roots →
    ∀ root ∈ roots, ¬ base.disk.RootReaches home root
  /-- A program of several groups does the same at every start. -/
  programs : ∀ group ∈ selected, ∀ other ∈ selected, group ≠ other →
    ∀ p ∈ group.programs context, p ∈ other.programs context → base.IsSteadyProgram p
  /-- A class of several groups has the same answer every time. -/
  classes : ∀ group ∈ selected, ∀ other ∈ selected, group ≠ other →
    ∀ c ∈ group.classes context, c ∈ other.classes context → base.IsSteadyClass c

/-- What is foreseen is seen. -/
theorem Session.StagesEmpty.emptyAt {s : Session} {context : Context} {home : Location}
    (h : s.StagesEmpty context home) :
    (s.prepared context).host.disk.EmptyAt context.staging home := by
  rcases h with hempty | ⟨written, hpath, hdots, hground, hbefore, hgranted, hhome⟩
  · exact hempty
  · have hsettle : (ensureDirectories context.staging).settle s =
        ((s.host.disk.ensureDirectories context.staging).1.mapError DiskError.toFault,
          s.withDisk (s.host.disk.ensureDirectories context.staging).2) := rfl
    unfold Session.prepared at hhome ⊢
    rw [hsettle] at hgranted hhome ⊢
    cases hmade : s.host.disk.ensureDirectories context.staging with
    | mk outcome disk =>
      rw [hmade] at hgranted hhome
      cases outcome with
      | error e => cases hgranted
      | ok _ =>
        rw [hpath] at hdots hbefore hmade
        obtain ⟨place, hempty⟩ := emptyAt_of_ensureDirectories hground hdots hbefore hmade
        rw [← hpath] at hempty
        cases hhome.symm.trans hempty.located
        exact hempty

/-- No two names are spellings of one file name. -/
def SpelledApart (outputs : List Text) : Prop :=
  ∀ output ∈ outputs, ∀ other ∈ outputs, ∀ name,
    Text.Utf8.encodeName output = .ok name → Text.Utf8.encodeName other = .ok name →
      output = other

/-- Names are spelled apart if what becomes of each is different. -/
theorem spelledApart_of_nodup {outputs : List Text}
    (h : (outputs.map Text.Utf8.encodeName).Nodup) : SpelledApart outputs :=
  fun _ hout _ hother _ hname hname' =>
    List.inj_on_of_nodup_map h hout hother (hname.trans hname'.symm)

/-- The selected groups of an accepted catalog are kept apart. -/
theorem Independent.apart {document : Json} {groups selected : List Group}
    {dwell : Option Binary64} {includeTrace : Bool} {context : Context} {base : Host}
    {home : Location} (hparse : Catalog.parse document = .ok groups)
    (hselected : selectedGroups (overrideDwell dwell groups) includeTrace = selected)
    (hempty : base.disk.EmptyAt context.staging home)
    (hspelled : SpelledApart (selected.flatMap Group.outputs))
    (htime : ∀ group ∈ selected, base.KeepsTime (group.waits context))
    (h : Independent selected context base home) : Apart selected context base home := by
  subst hselected
  obtain ⟨hcatalogued, hnames, houtputs⟩ := selectedGroups_ok hparse dwell includeTrace
  refine ⟨hempty, h.writes, fun group hgroup => ⟨(hcatalogued group hgroup).isBareName,
    h.roots group hgroup⟩, htime, hnames, ?_, h.programs, h.classes⟩
  -- A file of two groups has one spelling, and the spelling has one group.
  rintro group hgroup other hother name ⟨output, hout, hname⟩ ⟨output', hout', hname'⟩
  have heq : output = output' :=
    hspelled output (List.mem_flatMap.mpr ⟨group, hgroup, hout⟩) output'
      (List.mem_flatMap.mpr ⟨other, hother, hout'⟩) name hname hname'
  exact eq_of_mem_outputs houtputs hgroup hother hout (heq ▸ hout')

namespace FanOut

variable {context : Context} {limit limit' : Nat} {selected order order' : List Group}
  {s : Session} {home : Location} {f g : FanOut}

/-- A name that is no selected group's has only failures of the past. -/
theorem Accounts.filter_failures_of_not_mem {past : List Failure} (hf : f.Accounts selected past)
    {name : Text} (hname : name ∉ selected.map Group.name) :
    f.report.failures.filter (·.group = name) = past.filter (·.group = name) := by
  obtain ⟨added, hfailures, hparts⟩ := hf.failures
  have hnone : (added.filter (·.group = name)) = [] := by
    refine List.filter_eq_nil_iff.mpr fun failure hfailure => ?_
    obtain ⟨part, hpart, hin⟩ := List.mem_flatten.mp (hparts.perm_flatten.mem_iff.mp hfailure)
    obtain ⟨j, hj, rfl⟩ := List.mem_map.mp hpart
    rw [decide_eq_true_eq, hf.owned j hj failure hin]
    rintro rfl
    exact hname (List.mem_map_of_mem (hf.groups.mem_iff.mp (List.mem_map_of_mem hj)))
  rw [hfailures, List.filter_append, hnone, List.append_nil]

/-- Two runs of groups that are kept apart have the same document. -/
theorem document_eq (hapart : Apart selected context s.host home) (horder : order.Perm selected)
    (horder' : order'.Perm selected) (h : Steps context limit (initial order s) f)
    (h' : Steps context limit' (initial order' s) g) (hdone : f.workers = [])
    (hdone' : g.workers = []) : f.report.document = g.report.document := by
  have hf := (consistent_of_steps h).accounts hdone
  have hg := (consistent_of_steps h').accounts hdone'
  have hjoined : f.joined.Perm g.joined :=
    (joined_perm hapart horder h hdone).trans (joined_perm hapart horder' h' hdone').symm
  have hnames : (order.map Group.name).Nodup := (horder.map _).nodup_iff.mpr hapart.names
  have hnames' : (order'.map Group.name).Nodup := (horder'.map _).nodup_iff.mpr hapart.names
  refine RunReport.document_eq_of_filter_eq (fun name => ?_) fun name => ?_
  · refine StableSort.filter_eq_of_perm_of_nodup (hjoined.map Joined.result) ?_ name
    show (f.report.groups.map GroupResult.name).Nodup
    rw [hf.names]
    have hperm := hf.groups.map Group.name
    rw [List.map_map] at hperm
    exact hperm.nodup_iff.mpr hnames
  · -- Failures of a group are as they were joined; those of other names are of the past.
    by_cases hname : name ∈ order.map Group.name
    · obtain ⟨group, hgroup, rfl⟩ := List.mem_map.mp hname
      obtain ⟨j, hj, rfl⟩ := List.mem_map.mp (hf.groups.mem_iff.mpr hgroup)
      rw [hf.filter_failures hnames hj, hg.filter_failures hnames' (hjoined.mem_iff.mp hj)]
    · rw [hf.filter_failures_of_not_mem hname, hg.filter_failures_of_not_mem
        fun hname' => hname (((horder'.trans horder.symm).map _).mem_iff.mp hname')]

/-- Two runs of groups that are kept apart leave the same files. -/
theorem sameFiles (hapart : Apart selected context s.host home) (horder : order.Perm selected)
    (horder' : order'.Perm selected) (h : Steps context limit (initial order s) f)
    (h' : Steps context limit' (initial order' s) g) (hdone : f.workers = [])
    (hdone' : g.workers = []) : f.session.host.disk.SameFiles g.session.host.disk := by
  have hf := undisturbed_of_steps hapart horder h
  have hg := undisturbed_of_steps hapart horder' h'
  refine hf.staged.disk.sameFiles hapart.empty hg.staged.disk fun name _ => ?_
  by_cases howned : ∃ group ∈ selected, group.OwnsFile name
  · obtain ⟨group, hgroup, hown⟩ := howned
    exact (agreeOn_of_steps hapart horder h hdone hgroup name hown).trans
      (agreeOn_of_steps hapart horder' h' hdone' hgroup name hown).symm
  · have hnobody : ∀ group ∈ selected, ¬ group.OwnsFile name :=
      fun group hgroup hown => howned ⟨group, hgroup, hown⟩
    exact (hf.others name hnobody).trans (hg.others name hnobody).symm

/-- Any two runs of these groups that begin with a session, in any orders and by any schedules, have
the same document in their reports and leave the same files; and wherever the report is then
written, it is written or refused alike, and the files are the same again. -/
def Commute (context : Context) (selected : List Group) (s : Session) : Prop :=
  ∀ (order order' : List Group) (limit limit' : Nat) (f g : FanOut),
    order.Perm selected → order'.Perm selected →
      Steps context limit (initial order s) f → f.workers = [] →
        Steps context limit' (initial order' s) g → g.workers = [] →
          f.report.document = g.report.document ∧
            f.session.host.disk.SameFiles g.session.host.disk ∧
            ∀ path, (f.report.write path f.session.host.disk).1 =
                (g.report.write path g.session.host.disk).1 ∧
              (f.report.write path f.session.host.disk).2.SameFiles
                (g.report.write path g.session.host.disk).2

/-- **Independent groups commute.** The selected groups of an accepted catalog do, if the staging
directory is empty once the run has made it and their artifacts' names are spelled apart. A
directory that was absent or empty before is empty then, unless its path goes through a double dot.
-/
theorem groups_commute {document : Json} {groups : List Group} {dwell : Option Binary64}
    {includeTrace : Bool} (hparse : Catalog.parse document = .ok groups)
    (hselected : selectedGroups (overrideDwell dwell groups) includeTrace = selected)
    (hstaging : s.StagesEmpty context home)
    (hspelled : SpelledApart (selected.flatMap Group.outputs))
    (htime : ∀ group ∈ selected, (s.prepared context).host.KeepsTime (group.waits context))
    (hindependent : Independent selected context (s.prepared context).host home) :
    Commute context selected (s.prepared context) := by
  intro order order' limit limit' f g horder horder' h hdone h' hdone'
  have hapart := hindependent.apart hparse hselected hstaging.emptyAt hspelled htime
  have hdocument := document_eq hapart horder horder' h h' hdone hdone'
  have hfiles := sameFiles hapart horder horder' h h' hdone hdone'
  refine ⟨hdocument, hfiles, fun path => ?_⟩
  rw [RunReport.write_eq_of_document_eq hdocument path f.session.host.disk]
  exact isLikeness_sameFiles.writeReport g.report path hfiles

/-! ## Two groups on a small machine -/

namespace Example

open Diagnostics.Example

def printerJson (name output executable : Text) : Json :=
  .object [("name", .text name), ("tasks", .array [.object [("type", .text "process"),
    ("executable", .text executable), ("output", .text output)]])]

def printer (name output executable : Text) : Group :=
  ⟨name, false, .tasks [.process ⟨executable, "", output, false, none⟩]⟩

def pairCatalog (output executable output' executable' : Text) : Json :=
  .object [("groups", .array [printerJson "A" output executable,
    printerJson "B" output' executable'])]

def pair (output executable output' executable' : Text) : List Group :=
  [printer "A" output executable, printer "B" output' executable']

def prints (digit : UInt8) : Nat → Launch :=
  fun _ => .completed ⟨false, [], [digit], [], 0, 0⟩

/-- A machine with two programs, and with this at the top of its disk. -/
def printing (entries : List (FileName × Node)) : Session where
  host :=
    { disk := ⟨.directory entries, [], []⟩
      programs := fun name =>
        if name = "one" then some (prints 0x31)
        else if name = "two" then some (prints 0x32) else none
      started := fun _ => 0
      answers := fun _ _ => .text ""
      asked := fun _ => 0
      cancelled := false
      calls := [] }
  failures := []

def stagedAt (staging : Text) : Context :=
  ⟨Path.ofText staging, .service, "", 1, 0⟩

theorem exists_prints {host : Host} (hprograms : host.programs = (printing []).host.programs)
    {name : Text} {outcomes : Nat → Launch} (h : host.programs name = some outcomes) :
    ∃ digit, outcomes = prints digit := by
  rw [hprograms] at h
  dsimp only [printing] at h
  split at h
  · exact ⟨0x31, (Option.some.inj h).symm⟩
  · split at h
    · exact ⟨0x32, (Option.some.inj h).symm⟩
    · cases h

/-- Both programs are steady and write nothing, so groups of them are independent. -/
theorem independent_pair {output executable output' executable' staging : Text} {host : Host}
    {home : Location} (hprograms : host.programs = (printing []).host.programs) :
    Independent (pair output executable output' executable') (stagedAt staging) host home := by
  have hprinter : ∀ group ∈ pair output executable output' executable',
      ∃ name output executable, group = printer name output executable := by
    intro group hgroup
    rcases List.mem_pair.mp hgroup with rfl | rfl
    · exact ⟨"A", output, executable, rfl⟩
    · exact ⟨"B", output', executable', rfl⟩
  refine ⟨?_, ?_, ?_, ?_⟩
  · intro name outcomes houtcomes k c hc
    obtain ⟨digit, rfl⟩ := exists_prints hprograms houtcomes
    cases hc
    rfl
  · intro group hgroup roots hroots
    obtain ⟨name, output, executable, rfl⟩ := hprinter group hgroup
    cases hroots
  · intro group _ other _ _ p _ _ outcomes houtcomes j k
    obtain ⟨digit, rfl⟩ := exists_prints hprograms houtcomes
    rfl
  · intro group hgroup other _ _ c hc
    obtain ⟨name, output, executable, rfl⟩ := hprinter group hgroup
    exact absurd hc (by simp [printer, Group.classes, Group.tasks, Task.classes])

/-- Neither program interrupts the run. -/
theorem keepsCancelled_printing {host : Host}
    (hprograms : host.programs = (printing []).host.programs) : host.KeepsCancelled := by
  refine Or.inr fun name outcomes houtcomes k c hc => ?_
  obtain ⟨digit, rfl⟩ := exists_prints hprograms houtcomes
  cases hc
  rfl

/-- A machine with a tracing program and one that interrupts the run. -/
def interrupting : Session where
  host :=
    { (printing []).host with
      programs := fun name =>
        if name = "wpr" then some fun _ => .completed ⟨false, [], [], [], 0, 0⟩
        else if name = "one" then some fun _ => .completed ⟨true, [], [], [], 0, 0⟩ else none }
  failures := []

/-- A catalog with a capture whose dwell cannot be timed. -/
def tracedCatalog : Json :=
  .object [("groups", .array [traceJson "-start CPU" endless, printerJson "B" "b.txt" "one"])]

def traced : List Group :=
  [traceGroup "-start CPU" endless, printer "B" "b.txt" "one"]

/-- Both programs are steady and write nothing, one of them interrupts the run. -/
theorem independent_traced {staging : Text} {host : Host} {home : Location}
    (hprograms : host.programs = interrupting.host.programs) :
    Independent traced (stagedAt staging) host home := by
  have houtcome : ∀ name outcomes, host.programs name = some outcomes →
      ∃ cancels, outcomes = fun _ => .completed ⟨cancels, [], [], [], 0, 0⟩ := by
    intro name outcomes houtcomes
    rw [hprograms] at houtcomes
    dsimp only [interrupting] at houtcomes
    split at houtcomes
    · exact ⟨false, (Option.some.inj houtcomes).symm⟩
    · split at houtcomes
      · exact ⟨true, (Option.some.inj houtcomes).symm⟩
      · cases houtcomes
  refine ⟨?_, ?_, ?_, ?_⟩
  · intro name outcomes houtcomes k c hc
    obtain ⟨cancels, rfl⟩ := houtcome name outcomes houtcomes
    cases hc
    rfl
  · intro group hgroup roots hroots
    rcases List.mem_pair.mp hgroup with rfl | rfl
    all_goals cases hroots
  · intro group _ other _ _ p _ _ outcomes houtcomes j k
    obtain ⟨cancels, rfl⟩ := houtcome p outcomes houtcomes
    rfl
  · intro group hgroup other _ _ c hc
    rcases List.mem_pair.mp hgroup with rfl | rfl
    all_goals
      exact absurd hc (by simp [traceGroup, printer, Group.classes, Group.tasks, Task.classes])

def stageName : FileName := [0x73, 0x74, 0x61, 0x67, 0x65]

def aName : FileName := [0x61, 0x2E, 0x74, 0x78, 0x74]

def bName : FileName := [0x62, 0x2E, 0x74, 0x78, 0x74]

/-- One name of one letter, and another one that spells the two octets of that letter by halves of
surrogate pairs. -/
def letter : Text := [⟨0xE9, by decide⟩]

def halves : Text := [⟨0xDCC3, by decide⟩, ⟨0xDCA9, by decide⟩]

end Example

open FanOut.Example

/-- Two groups that share a program, one after another in both orders: the results differ in order,
and nothing else does. -/
theorem groups_commute_pair :
    Catalog.parse (pairCatalog "a.txt" "one" "b.txt" "one") =
        .ok (pair "a.txt" "one" "b.txt" "one") ∧
      ∃ f g, Steps (stagedAt "stage") 2 (initial (pair "a.txt" "one" "b.txt" "one")
          ((printing []).prepared (stagedAt "stage"))) f ∧ f.workers = [] ∧
        Steps (stagedAt "stage") 1 (initial (pair "a.txt" "one" "b.txt" "one").reverse
          ((printing []).prepared (stagedAt "stage"))) g ∧ g.workers = [] ∧
        f.report.groups.map GroupResult.name = ["A", "B"] ∧
        g.report.groups.map GroupResult.name = ["B", "A"] ∧
        f.report.document = g.report.document ∧
        f.session.host.disk.SameFiles g.session.host.disk := by
  have hparse : Catalog.parse (pairCatalog "a.txt" "one" "b.txt" "one") =
      .ok (pair "a.txt" "one" "b.txt" "one") := rfl
  have hstaging : (printing []).StagesEmpty (stagedAt "stage") [stageName] :=
    .foreseen "stage" rfl (by decide) ⟨[], rfl⟩ (Or.inl rfl) rfl rfl
  have hselected : selectedGroups (overrideDwell none (pair "a.txt" "one" "b.txt" "one")) false =
      pair "a.txt" "one" "b.txt" "one" := rfl
  have hcommute := groups_commute hparse hselected hstaging (spelledApart_of_nodup (by decide))
    (fun _ _ => Or.inl (keepsCancelled_printing rfl)) (independent_pair rfl)
  obtain ⟨f, hf, hdone, hsettle⟩ := @exists_complete (stagedAt "stage") 2 (by decide)
    (pair "a.txt" "one" "b.txt" "one") ((printing []).prepared (stagedAt "stage"))
  obtain ⟨g, hg, hdone', hsettle'⟩ := @exists_complete (stagedAt "stage") 1 (by decide)
    (pair "a.txt" "one" "b.txt" "one").reverse ((printing []).prepared (stagedAt "stage"))
  obtain ⟨hdocument, hfiles, -⟩ := hcommute _ _ 2 1 f g (List.Perm.refl _) (List.reverse_perm _) hf
    hdone hg hdone'
  refine ⟨hparse, f, g, hf, hdone, hg, hdone', ?_, ?_, hdocument, hfiles⟩
  · have hgroups := congrArg Prod.fst hsettle
    rw [← Except.ok.inj hgroups]
    rfl
  · have hgroups := congrArg Prod.fst hsettle'
    rw [← Except.ok.inj hgroups]
    rfl

/-- Groups do not commute if the same file can be seen to be different in the end. -/
theorem not_commute_of_view_ne {context : Context} {selected : List Group} {s : Session}
    (place : Location) (h :
      ((gatherGroups context selected).settle s).2.host.disk.top.view place ≠
        ((gatherGroups context selected.reverse).settle s).2.host.disk.top.view place) :
    ¬ Commute context selected s := by
  intro hcommute
  obtain ⟨f, hf, hdone, hsettle⟩ := @exists_complete context 1 (by decide) selected s
  obtain ⟨g, hg, hdone', hsettle'⟩ := @exists_complete context 1 (by decide) selected.reverse s
  obtain ⟨-, hfiles, -⟩ := hcommute _ _ 1 1 f g (List.Perm.refl _) (List.reverse_perm _) hf hdone
    hg hdone'
  rw [hsettle, hsettle'] at h
  exact h (hfiles.view place)

/-- Groups do not commute if they can leave different numbers of failures. -/
theorem not_commute_of_length_failures_ne {context : Context} {selected : List Group} {s : Session}
    (h : ((gatherGroups context selected).settle s).2.failures.length ≠
        ((gatherGroups context selected.reverse).settle s).2.failures.length) :
    ¬ Commute context selected s := by
  intro hcommute
  obtain ⟨f, hf, hdone, hsettle⟩ := @exists_complete context 1 (by decide) selected s
  obtain ⟨g, hg, hdone', hsettle'⟩ := @exists_complete context 1 (by decide) selected.reverse s
  obtain ⟨hdocument, -, -⟩ := hcommute _ _ 1 1 f g (List.Perm.refl _) (List.reverse_perm _) hf hdone
    hg hdone'
  rw [hsettle, hsettle'] at h
  have hlength : ∀ report report' : RunReport, report.document = report'.document →
      report.failures.length = report'.failures.length := by
    intro report report' hsame
    unfold RunReport.document at hsame
    have hfailures := congrArg List.length (Json.array.inj (Prod.mk.inj
      (List.cons.inj (Json.object.inj hsame)).1).2)
    simpa [RunReport.sortedFailures] using hfailures
  exact h (hlength _ _ hdocument)

/-- Independent groups of an accepted catalog that do not commute. In the first case nothing stands
where the staging directory is to be, but making the first part of its path makes the whole path
lead to a directory that is not empty; in the second, two names are spellings of one file name; in
the third, one group waits for longer than can be timed and the other one cuts the run short. -/
theorem groups_do_not_commute :
    (Catalog.parse (pairCatalog "a.txt" "one" "b.txt" "two") =
        .ok (pair "a.txt" "one" "b.txt" "two") ∧
      (printing [(bName, .link aName)]).host.disk.locate ⟨true, false⟩ (Path.ofText "new/..") =
        .error (refusal .noEntry (Path.ofText "new/..")) ∧
      SpelledApart ((pair "a.txt" "one" "b.txt" "two").flatMap Group.outputs) ∧
      Independent (pair "a.txt" "one" "b.txt" "two") (stagedAt "new/..")
        ((printing [(bName, .link aName)]).prepared (stagedAt "new/..")).host [] ∧
      ¬ Commute (stagedAt "new/..") (pair "a.txt" "one" "b.txt" "two")
        ((printing [(bName, .link aName)]).prepared (stagedAt "new/.."))) ∧
    (Catalog.parse (pairCatalog letter "one" halves "two") = .ok (pair letter "one" halves "two") ∧
      ((printing []).prepared (stagedAt "stage")).host.disk.EmptyAt (stagedAt "stage").staging
        [stageName] ∧
      Independent (pair letter "one" halves "two") (stagedAt "stage")
        ((printing []).prepared (stagedAt "stage")).host [stageName] ∧
      ¬ Commute (stagedAt "stage") (pair letter "one" halves "two")
        ((printing []).prepared (stagedAt "stage"))) ∧
    (Catalog.parse tracedCatalog = .ok traced ∧
      (interrupting.prepared (stagedAt "stage")).host.disk.EmptyAt (stagedAt "stage").staging
        [stageName] ∧
      SpelledApart (traced.flatMap Group.outputs) ∧
      Independent traced (stagedAt "stage") (interrupting.prepared (stagedAt "stage")).host
        [stageName] ∧
      ¬ Commute (stagedAt "stage") traced (interrupting.prepared (stagedAt "stage"))) := by
  refine ⟨⟨rfl, rfl, spelledApart_of_nodup (by decide), independent_pair rfl, ?_⟩,
    ⟨rfl, ⟨rfl, rfl⟩, independent_pair rfl, ?_⟩,
    rfl, ⟨rfl, rfl⟩, spelledApart_of_nodup (by decide), independent_traced rfl, ?_⟩
  · refine not_commute_of_view_ne [aName] fun h => ?_
    have hfirst : ((gatherGroups (stagedAt "new/..") (pair "a.txt" "one" "b.txt" "two")).settle
        ((printing [(bName, .link aName)]).prepared (stagedAt "new/.."))).2.host.disk.top.view
          [aName] = some (.file [0x32]) := rfl
    rw [hfirst] at h
    cases h
  · refine not_commute_of_view_ne [stageName, [0xC3, 0xA9]] fun h => ?_
    have hfirst : ((gatherGroups (stagedAt "stage") (pair letter "one" halves "two")).settle
        ((printing []).prepared (stagedAt "stage"))).2.host.disk.top.view
          [stageName, [0xC3, 0xA9]] = some (.file [0x32]) := rfl
    rw [hfirst] at h
    cases h
  · refine not_commute_of_length_failures_ne ?_
    have hfirst : ((gatherGroups (stagedAt "stage") traced).settle
        (interrupting.prepared (stagedAt "stage"))).2.failures.length = 1 := rfl
    have hlast : ((gatherGroups (stagedAt "stage") traced.reverse).settle
        (interrupting.prepared (stagedAt "stage"))).2.failures.length = 0 := rfl
    rw [hfirst, hlast]
    exact Nat.one_ne_zero

end FanOut

end Diagnostics
