import Diagnostics.Proofs.Catalog.Durations
import Diagnostics.Proofs.Path.Written

/-!
# Groups written back as a catalog

Groups that were read from a catalog can be written as one (`Catalog.document`), with every field in
full: defaults are told, a number of seconds is the binary64 that it was brought to, and a root is a
path in normal form. **`parse_document`**: that catalog is accepted, and read as the groups that it
was written for.

A written object follows the rules of the grammar for what it was written for (`written`, one lemma
a rule), because what was read once is in the form that reading gives it: a text that was not blank
is not, a number that was in bounds is in bounds in binary64, and the written form of a path means
that path. The names are those that passed the check before.
-/

set_option autoImplicit false

namespace Diagnostics

open Diagnostics.Json (field?)

/-! ## The written form -/

namespace ProcessTask

def timeoutJson (task : ProcessTask) : Json :=
  match task.timeout with
  | some limit => .number limit
  | none => .null

/-- The fields of a program in a catalog. -/
def fields (task : ProcessTask) : List (Text × Json) :=
  [("executable", .text task.executable), ("args", .text task.arguments),
    ("output", .text task.output), ("produces_own_file", .bool task.ownFile),
    ("timeout_seconds", task.timeoutJson)]

end ProcessTask

def QueryTask.fields (task : QueryTask) : List (Text × Json) :=
  [("class", .text task.className), ("namespace", .text task.namespaceName),
    ("output", .text task.output)]

def CaptureTask.fields (task : CaptureTask) : List (Text × Json) :=
  [("start", .object task.start.fields), ("stop", .object task.stop.fields),
    ("dwell_seconds", .number task.dwell)]

/-- A task in a catalog. No catalog has a stub. -/
def Task.toJson : Task → Json
  | .process task => .object (("type", .text "process") :: task.fields)
  | .query task => .object (("type", .text "query") :: task.fields)
  | .capture task => .object (("type", .text "capture") :: task.fields)
  | .stub _ _ => .null

/-- The field for what a group does. No catalog has a group that breaks by itself. -/
def Work.fields : Work → List (Text × Json)
  | .tasks list => [("tasks", .array (list.map Task.toJson))]
  | .roots paths => [("roots", .array (paths.map fun root => .text root.text))]
  | .broken .. => []

namespace Group

def fields (group : Group) : List (Text × Json) :=
  ("name", .text group.name) :: ("trace", .bool group.trace) :: group.work.fields

def toJson (group : Group) : Json :=
  .object group.fields

@[simp] theorem field?_name_fields (group : Group) :
    field? "name" group.fields = some (.text group.name) := by
  unfold fields
  cases group.work <;> rfl

@[simp] theorem field?_trace_fields (group : Group) :
    field? "trace" group.fields = some (.bool group.trace) := by
  unfold fields
  cases group.work <;> rfl

end Group

namespace Catalog

/-- The catalog of groups. -/
def document (groups : List Group) : Json :=
  .object [("groups", .array (groups.map Group.toJson))]

/-! ## The rules hold of what is written -/

section

variable {fields : List (Text × Json)}

theorem allBlank_of_requiredField {field : Option Json} {s : Text}
    (h : RequiredField IsNonBlank field s) : s.allBlank = false := by
  cases field with
  | none => exact h.elim
  | some v => exact h.2

theorem DescribesOwnFile.written {fields' : List (Text × Json)} {ownFile : Option Bool} {b : Bool}
    (h : DescribesOwnFile fields ownFile b)
    (hfield : field? "produces_own_file" fields' = some (.bool b)) :
    DescribesOwnFile fields' ownFile b := by
  cases h with
  | settled => exact .settled b
  | read =>
    refine .read ?_
    rw [hfield]
    exact rfl

/-- A number that was in bounds when it was read is in bounds in binary64. -/
theorem IsSeconds.written_timeout {v : Json} {x : Binary64}
    (h : IsSeconds Bounds.checked.timeout v x) : IsSeconds Bounds.checked.timeout (.number x) x :=
  ⟨.number x, rfl, decide_eq_false h.not_le_zero, rfl⟩

theorem DescribesProcess.written_timeout {ownFile : Option Bool} {task : ProcessTask}
    (h : DescribesProcess .checked fields ownFile task) :
    IsTimeout .checked task.timeoutJson task.timeout := by
  unfold ProcessTask.timeoutJson
  cases hlimit : task.timeout with
  | none => exact Or.inl ⟨rfl, rfl⟩
  | some limit =>
    obtain ⟨v, hseconds⟩ := h.exists_isSeconds hlimit
    exact Or.inr ⟨limit, rfl, hseconds.written_timeout⟩

theorem DescribesProcess.written {ownFile : Option Bool} {task : ProcessTask}
    (h : DescribesProcess .checked fields ownFile task) :
    DescribesProcess .checked task.fields ownFile task where
  executable := ⟨rfl, allBlank_of_requiredField h.executable⟩
  arguments := rfl
  output := ⟨rfl, isBareName_of_requiredField h.output⟩
  ownFile := h.ownFile.written rfl
  timeout := h.written_timeout

theorem DescribesQuery.written {task : QueryTask} (h : DescribesQuery fields task) :
    DescribesQuery (("type", .text "query") :: task.fields) task where
  className := ⟨rfl, allBlank_of_requiredField h.className⟩
  namespaceName := ⟨rfl, allBlank_of_requiredField h.namespaceName⟩
  output := ⟨rfl, isBareName_of_requiredField h.output⟩

theorem DescribesCapture.written {task : CaptureTask} (h : DescribesCapture .checked fields task) :
    DescribesCapture .checked (("type", .text "capture") :: task.fields) task := by
  obtain ⟨startFields, -, hstart⟩ := requiredField_isObject_iff.mp h.start
  obtain ⟨stopFields, -, hstop⟩ := requiredField_isObject_iff.mp h.stop
  exact {
    start := ⟨task.start.fields, rfl, hstart.written⟩
    stop := ⟨task.stop.fields, rfl, hstop.written⟩
    dwell := ⟨.number task.dwell, rfl, decide_eq_false h.not_lt_zero, rfl⟩ }

theorem DescribesTask.written {task : Task} (h : DescribesTask .checked fields task) :
    IsObject (DescribesTask .checked) task.toJson task := by
  cases h with
  | @process task kind h =>
    -- The kind stands in front, and no field of a program is looked for under its name.
    have hfields : DescribesProcess .checked (("type", .text "process") :: task.fields) none task :=
      ⟨h.written.executable, h.written.arguments, h.written.output, h.ownFile.written rfl,
        h.written.timeout⟩
    exact ⟨_, rfl, .process rfl hfields⟩
  | query kind h => exact ⟨_, rfl, .query rfl h.written⟩
  | capture kind h => exact ⟨_, rfl, .capture rfl h.written⟩

/-- The written form of a root means that root. -/
theorem map_ofText_text (texts : List Text) :
    ((texts.map Path.ofText).map Path.text).map Path.ofText = texts.map Path.ofText := by
  rw [List.map_map, List.map_map]
  exact List.map_congr_left fun s _ => (Path.isNormal_ofText s).ofText_text

theorem DescribesWork.written {work : Work} (h : DescribesWork .checked fields work)
    (name : Text) (trace : Bool) :
    DescribesWork .checked (Group.fields ⟨name, trace, work⟩) work := by
  cases h with
  | @tasks tasks alone h =>
    refine .tasks rfl (requiredField_isArray_iff.mpr ⟨tasks.map Task.toJson, rfl, ?_⟩)
    rw [List.forall₂_map_left_iff, List.forall₂_same]
    intro task htask
    obtain ⟨_, _, -, htask⟩ := exists_of_mem_array h htask
    exact htask.written
  | @roots texts alone h =>
    rw [← map_ofText_text]
    refine .roots rfl (requiredField_isArray_iff.mpr ⟨_, rfl, ?_⟩)
    rw [map_ofText_text, List.forall₂_map_left_iff, List.forall₂_map_right_iff, List.forall₂_same]
    exact fun root _ => rfl

theorem DescribesGroup.written {group : Group} (h : DescribesGroup .checked fields group) :
    IsObject (DescribesGroup .checked) group.toJson group := by
  refine ⟨group.fields, rfl, ?_, ?_, h.work.written group.name group.trace⟩
  · rw [Group.field?_name_fields]
    exact ⟨rfl, allBlank_of_requiredField h.name⟩
  · rw [Group.field?_trace_fields]
    exact rfl

end

/-- **Groups written back as a catalog are read as these groups.** What was read of any document,
written in full, is a catalog that is accepted, and nothing of the groups is lost or changed. -/
theorem parse_document {document : Json} {groups : List Group} (h : parse document = .ok groups) :
    parse (Catalog.document groups) = .ok groups := by
  obtain ⟨⟨fields, -, hgroups⟩, hunique⟩ := parse_ok_iff.mp h
  refine parse_ok_iff.mpr ⟨⟨_, rfl, ?_⟩, hunique⟩
  refine requiredField_isArray_iff.mpr ⟨groups.map Group.toJson, rfl, ?_⟩
  rw [List.forall₂_map_left_iff, List.forall₂_same]
  intro group hgroup
  obtain ⟨_, _, -, hgroup⟩ := exists_of_mem_array hgroups hgroup
  exact hgroup.written

/-- A catalog that leaves fields to their defaults, with a limit that is written as an integer and
a root that is not in normal form. -/
def sparseCatalog : Json :=
  .object [("groups", .array [
    .object [("name", .text "net"), ("tasks", .array [
      .object [("type", .text "process"), ("executable", .text "netsh"), ("output", .text "net.txt"),
        ("timeout_seconds", .integer 30)],
      .object [("type", .text "query"), ("class", .text "Win32_Service"),
        ("namespace", .text "root/cimv2"), ("output", .text "services.txt")]])],
    .object [("name", .text "trace"), ("trace", .bool true), ("tasks", .array [
      .object [("type", .text "capture"),
        ("start", .object [("executable", .text "wpr"), ("output", .text "t.etl")]),
        ("stop", .object [("executable", .text "wpr"), ("output", .text "t.etl")])]])],
    .object [("name", .text "logs"), ("roots", .array [.text "//var//log/./", .text ""])]])]

/-- What the catalog is read as: no arguments, no file of the program's own, a dwell of ten
minutes, and roots without what leaves no trace. -/
def sparseGroups : List Group :=
  [⟨"net", false, .tasks [
      .process ⟨"netsh", "", "net.txt", false, Binary64.ofInt? 30⟩,
      .query ⟨"Win32_Service", "root/cimv2", "services.txt"⟩]⟩,
    ⟨"trace", true, .tasks [
      .capture ⟨⟨"wpr", "", "t.etl", true, none⟩, ⟨"wpr", "", "t.etl", true, none⟩,
        CaptureTask.defaultDwell, rfl⟩]⟩,
    ⟨"logs", false, .roots [⟨.doubleSlash, ["var", "log"]⟩, ⟨.relative, []⟩]⟩]

theorem parse_document_sparse :
    parse sparseCatalog = .ok sparseGroups ∧ parse (document sparseGroups) = .ok sparseGroups := by
  have hparse : parse sparseCatalog = .ok sparseGroups := by decide +kernel
  exact ⟨hparse, parse_document hparse⟩

end Catalog

end Diagnostics
