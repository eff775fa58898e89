import Diagnostics.Proofs.Catalog.Grammar

/-!
# What an accepted catalog guarantees

A catalog that is read says of each of its tasks more than its type does: an artifact's name is one
part of a path, the phases of a capture write their own file, and there are neither stubs nor groups
that break by themselves. These are the facts that a run relies on, so they are gathered here as
`Task.IsCatalogued` and `Group.IsCatalogued`, next to the uniqueness of names that the reader checks
last.
-/

set_option autoImplicit false

namespace Diagnostics

/-- What the reader guarantees of a task. -/
def Task.IsCatalogued : Task → Prop
  | .process task => IsBareName task.output
  | .query task => IsBareName task.output
  | .capture task =>
    task.start.ownFile = true ∧ task.stop.ownFile = true ∧ IsBareName task.output
  | .stub _ _ => False

def Work.IsCatalogued : Work → Prop
  | .tasks list => ∀ task ∈ list, task.IsCatalogued
  | .roots _ => True
  | .broken .. => False

def Group.IsCatalogued (group : Group) : Prop :=
  group.work.IsCatalogued

namespace Catalog

variable {bounds : Bounds} {fields : List (Text × Json)}

theorem isBareName_of_requiredField {field : Option Json} {output : Text}
    (h : RequiredField IsOutput field output) : IsBareName output := by
  cases field with
  | none => exact h.elim
  | some v => exact h.2

theorem DescribesProcess.ownFile_eq {ownFile : Bool} {task : ProcessTask}
    (h : DescribesProcess bounds fields (some ownFile) task) : task.ownFile = ownFile := by
  cases h.ownFile
  rfl

theorem DescribesTask.isCatalogued {task : Task} (h : DescribesTask bounds fields task) :
    task.IsCatalogued := by
  cases h with
  | process kind h => exact isBareName_of_requiredField h.output
  | query kind h => exact isBareName_of_requiredField h.output
  | capture kind h =>
    obtain ⟨startFields, -, hstart⟩ := requiredField_isObject_iff.mp h.start
    obtain ⟨stopFields, -, hstop⟩ := requiredField_isObject_iff.mp h.stop
    exact ⟨hstart.ownFile_eq, hstop.ownFile_eq, isBareName_of_requiredField hstop.output⟩

theorem DescribesWork.isCatalogued {work : Work} (h : DescribesWork bounds fields work) :
    work.IsCatalogued := by
  cases h with
  | tasks alone h =>
    intro task htask
    obtain ⟨_, _, -, htask⟩ := exists_of_mem_array h htask
    exact htask.isCatalogued
  | roots alone h => exact True.intro

theorem DescribesGroup.isCatalogued {group : Group} (h : DescribesGroup bounds fields group) :
    group.IsCatalogued :=
  h.work.isCatalogued

/-- **What an accepted catalog guarantees**: every group is as the reader leaves it, and names are
used once. -/
theorem parse_ok {document : Json} {groups : List Group} (h : parse document = .ok groups) :
    (∀ group ∈ groups, group.IsCatalogued) ∧ checkUnique groups = .ok () := by
  obtain ⟨⟨fields, -, hgroups⟩, hunique⟩ := parse_ok_iff.mp h
  refine ⟨fun group hgroup => ?_, hunique⟩
  obtain ⟨_, _, -, hgroup⟩ := exists_of_mem_array hgroups hgroup
  exact hgroup.isCatalogued

/-- What was loaded from a file is what its document is read as. -/
theorem load_ok {disk : Disk} {path : Path} {groups : List Group}
    (h : load disk path = .ok groups) : ∃ document, parse document = .ok groups := by
  unfold load at h
  split at h
  case h_4 octets hread =>
    unfold ofOctets at h
    split at h
    · cases h
    · split at h
      · cases h
      · cases h
      · exact ⟨_, h⟩
  all_goals cases h

end Catalog

end Diagnostics
