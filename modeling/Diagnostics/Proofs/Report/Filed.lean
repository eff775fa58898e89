import Diagnostics.Proofs.Catalog.Grammar
import Diagnostics.Proofs.Report.RoundTrip

/-!
# What stands in a report's file

Whoever opens the file of a report sees a document, and not the report that it was written for. A
`FiledReport` is what can be read there, one rule for each kind of object as in the grammar of
catalogs (`DescribesReport`), and its lines are made of what is read and of nothing else.

The document of a report is read as one filed report (`describesReport_document_iff`), and its
lines are those that the report prints, but for the order of the failures
(`RunReport.isToldBy_lines`). The file sorts them and the lines keep the order in which they
arrived; the groups stand in one order in both.
-/

set_option autoImplicit false

namespace Diagnostics

open Diagnostics.Catalog (IsText IsArray IsObject RequiredField)
open Diagnostics.Json (field?)

/-- An entry of the groups: a name and the paths of artifacts. -/
structure FiledGroup where
  name : Text
  artifacts : List Text
  deriving DecidableEq, Repr

/-- An entry of the failures. Its class is a name like any other text. -/
structure FiledFailure where
  group : Text
  source : Text
  kind : Text
  message : Text
  deriving DecidableEq, Repr

structure FiledReport where
  groups : List FiledGroup
  failures : List FiledFailure
  deriving DecidableEq, Repr

/-! ## The rules -/

section Rules

variable (fields : List (Text × Json))

structure DescribesFiledGroup (group : FiledGroup) : Prop where
  name : RequiredField IsText (field? "name" fields) group.name
  artifacts : RequiredField (IsArray IsText) (field? "artifacts" fields) group.artifacts

structure DescribesFiledFailure (failure : FiledFailure) : Prop where
  group : RequiredField IsText (field? "group" fields) failure.group
  source : RequiredField IsText (field? "source" fields) failure.source
  kind : RequiredField IsText (field? "kind" fields) failure.kind
  message : RequiredField IsText (field? "message" fields) failure.message

structure DescribesReport (filed : FiledReport) : Prop where
  groups : RequiredField (IsArray (IsObject DescribesFiledGroup)) (field? "groups" fields)
    filed.groups
  failures : RequiredField (IsArray (IsObject DescribesFiledFailure)) (field? "failures" fields)
    filed.failures

end Rules

/-! ## Lines -/

/-- The line of a group: its name and how many artifacts it has. -/
def FiledGroup.line (group : FiledGroup) : Text :=
  "- " ++ group.name ++ s!": {group.artifacts.length} artifacts"

def FiledFailure.line (failure : FiledFailure) : Text :=
  "- [" ++ failure.group ++ "] " ++ failure.kind ++ ": " ++ failure.message

/-- Lines that tell a filed report: how many groups there are and a line for each, in the order of
the file, and how many failures and a line for each, in any order. -/
def FiledReport.IsToldBy (filed : FiledReport) (lines : List Text) : Prop :=
  ∃ failures : List Text, failures.Perm (filed.failures.map FiledFailure.line) ∧
    lines = [(s!"Groups: {filed.groups.length}" : Text)] ++ filed.groups.map FiledGroup.line ++
      [(s!"Failures: {filed.failures.length}" : Text)] ++ failures

/-! ## What a report is filed as -/

def GroupResult.filed (result : GroupResult) : FiledGroup where
  name := result.name
  artifacts := result.artifacts.map (·.text)

def Failure.filed (failure : Failure) : FiledFailure where
  group := failure.group
  source := failure.source
  kind := failure.kind.name
  message := failure.message

def RunReport.filed (report : RunReport) : FiledReport where
  groups := report.sortedGroups.map GroupResult.filed
  failures := report.sortedFailures.map Failure.filed

/-- An array is read item by item. -/
theorem isArray_map_iff {α β : Type} {reads : Json → α → Prop} {write : β → Json} {filed : β → α}
    (h : ∀ b a, reads (write b) a ↔ a = filed b) {items : List β} {list : List α} :
    IsArray reads (.array (items.map write)) list ↔ list = items.map filed := by
  have hitems : IsArray reads (.array (items.map write)) list ↔
      List.Forall₂ (fun b a => reads (write b) a) items list := by
    rw [← List.forall₂_map_left_iff]
    constructor
    · rintro ⟨vs, hvs, hread⟩
      cases hvs
      exact hread
    · exact fun hread => ⟨_, rfl, hread⟩
  have hreads : (fun b a => reads (write b) a) = fun b a => a = filed b := by
    funext b a
    exact propext (h b a)
  rw [hitems, hreads]
  clear hitems
  induction items generalizing list with
  | nil => simp
  | cons b items ih =>
    cases list with
    | nil => simp
    | cons a list => simp [ih]

theorem isArray_isText_iff {α : Type} {f : α → Text} {items : List α} {list : List Text} :
    IsArray IsText (.array (items.map fun a => .text (f a))) list ↔ list = items.map f :=
  isArray_map_iff fun b a => by simp [IsText, eq_comm]

theorem describesFiledGroup_toJson_iff (result : GroupResult) (group : FiledGroup) :
    IsObject DescribesFiledGroup result.toJson group ↔ group = result.filed := by
  constructor
  · rintro ⟨fields, hfields, hname, hartifacts⟩
    cases hfields
    have hpaths : group.artifacts = result.artifacts.map (·.text) :=
      isArray_isText_iff.mp hartifacts
    obtain ⟨name, artifacts⟩ := group
    cases hname
    cases hpaths
    rfl
  · rintro rfl
    exact ⟨_, rfl, rfl, isArray_isText_iff.mpr rfl⟩

theorem describesFiledFailure_toJson_iff (failure : Failure) (entry : FiledFailure) :
    IsObject DescribesFiledFailure failure.toJson entry ↔ entry = failure.filed := by
  constructor
  · rintro ⟨fields, hfields, hgroup, hsource, hkind, hmessage⟩
    cases hfields
    obtain ⟨group, source, kind, message⟩ := entry
    cases hgroup
    cases hsource
    cases hkind
    cases hmessage
    rfl
  · rintro rfl
    exact ⟨_, rfl, rfl, rfl, rfl, rfl⟩

/-- **What the document of a report is read as.** -/
theorem describesReport_document_iff (report : RunReport) (filed : FiledReport) :
    IsObject DescribesReport report.document filed ↔ filed = report.filed := by
  constructor
  · rintro ⟨fields, hfields, hgroups, hfailures⟩
    cases hfields
    have hgroups : filed.groups = report.sortedGroups.map GroupResult.filed :=
      (isArray_map_iff describesFiledGroup_toJson_iff).mp hgroups
    have hfailures : filed.failures = report.sortedFailures.map Failure.filed :=
      (isArray_map_iff describesFiledFailure_toJson_iff).mp hfailures
    obtain ⟨groups, failures⟩ := filed
    cases hgroups
    cases hfailures
    rfl
  · rintro rfl
    exact ⟨_, rfl, (isArray_map_iff describesFiledGroup_toJson_iff).mpr rfl,
      (isArray_map_iff describesFiledFailure_toJson_iff).mpr rfl⟩

/-! ## The two forms of a report -/

theorem GroupResult.line_filed (result : GroupResult) : result.filed.line = result.line := by
  unfold FiledGroup.line line filed
  rw [List.length_map]

namespace RunReport

variable (report : RunReport)

theorem length_filed_groups : report.filed.groups.length = report.groups.length := by
  unfold filed
  rw [List.length_map, report.tells_sorted.groups_perm.length_eq]

theorem length_filed_failures : report.filed.failures.length = report.failures.length := by
  unfold filed
  rw [List.length_map, report.tells_sorted.failures_perm.length_eq]

/-- **The lines of a report tell what stands in its file.** -/
theorem isToldBy_lines : report.filed.IsToldBy report.lines := by
  have hgroups : report.filed.groups.map FiledGroup.line =
      report.sortedGroups.map GroupResult.line := by
    unfold filed
    rw [List.map_map]
    exact List.map_congr_left fun result _ => result.line_filed
  have hfailures : report.filed.failures.map FiledFailure.line =
      report.sortedFailures.map Failure.line := by
    unfold filed
    rw [List.map_map]
    rfl
  refine ⟨report.failures.map Failure.line, ?_, ?_⟩
  · rw [hfailures]
    exact (report.tells_sorted.failures_perm.map Failure.line).symm
  · rw [hgroups, length_filed_groups, length_filed_failures]
    rfl

end RunReport

end Diagnostics
