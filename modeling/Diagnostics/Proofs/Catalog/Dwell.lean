import Diagnostics.Proofs.Catalog.Exact
import Diagnostics.Proofs.Catalog.RoundTrip
import Diagnostics.Proofs.Json.Edit

/-!
# Replacing the dwell of captures

A run may replace the dwell of every capture in the groups that it was given. That is as if the
catalog had told the dwell so from the start (**`override_is_edit`**): the document with
`dwell_seconds` set in each of its captures (`setDwells`) is accepted, and is read as those groups.

The grammar carries this, one lemma a rule. Setting a field leaves every other field of an object
as it was, so what the rules say of the other fields holds of the edited document too; and names and
artifacts, which the last check is about, are not among what is replaced.
-/

set_option autoImplicit false

namespace Diagnostics

/-! ## Groups with another dwell -/

/-- A task before and after: a capture differs in its dwell at most, and any other task not at
all. -/
inductive Task.SameButDwell (dwell : Binary64) : Task → Task → Prop
  | capture {task task' : CaptureTask} (start : task'.start = task.start)
      (stop : task'.stop = task.stop) (output : task'.output = task.output)
      (replaced : task'.dwell = dwell) : SameButDwell dwell (.capture task) (.capture task')
  | other {task : Task} (h : task.isCapture = false) : SameButDwell dwell task task

/-- A group before and after: only dwells differ. -/
structure Group.SameButDwell (dwell : Binary64) (group group' : Group) : Prop where
  name : group'.name = group.name
  trace : group'.trace = group.trace
  roots : ∀ roots, group.work = .roots roots → group'.work = .roots roots
  tasks : ∀ tasks, group.work = .tasks tasks →
    ∃ tasks', group'.work = .tasks tasks' ∧ List.Forall₂ (Task.SameButDwell dwell) tasks tasks'

theorem Task.sameButDwell_withDwell (dwell : Binary64) (task : Task) :
    task.SameButDwell dwell (task.withDwell dwell) := by
  cases task with
  | capture task => exact .capture rfl rfl rfl rfl
  | process task => exact .other rfl
  | query task => exact .other rfl
  | stub output fault => exact .other rfl

theorem Group.sameButDwell_withDwell (dwell : Binary64) (group : Group) :
    group.SameButDwell dwell (group.withDwell dwell) := by
  obtain ⟨name, trace, work⟩ := group
  cases work with
  | tasks list =>
    refine ⟨rfl, rfl, nofun, ?_⟩
    rintro _ ⟨⟩
    refine ⟨_, rfl, ?_⟩
    rw [List.forall₂_map_right_iff, List.forall₂_same]
    exact fun task _ => task.sameButDwell_withDwell dwell
  | roots paths => exact ⟨rfl, rfl, fun _ h => h, nofun⟩
  | broken fault => exact ⟨rfl, rfl, nofun, nofun⟩

/-- Of two dwells the later one stays. -/
theorem Task.withDwell_withDwell (dwell later : Binary64) (task : Task) :
    (task.withDwell dwell).withDwell later = task.withDwell later := by
  cases task <;> rfl

theorem Group.withDwell_withDwell (dwell later : Binary64) (group : Group) :
    (group.withDwell dwell).withDwell later = group.withDwell later := by
  obtain ⟨name, trace, work⟩ := group
  cases work with
  | tasks list => simp [withDwell, Function.comp_def, Task.withDwell_withDwell]
  | roots paths => rfl
  | broken fault => rfl

theorem overrideDwell_overrideDwell (dwell later : Binary64) (groups : List Group) :
    overrideDwell (some later) (overrideDwell (some dwell) groups) =
      overrideDwell (some later) groups := by
  simp [overrideDwell, Function.comp_def, Group.withDwell_withDwell]

@[simp] theorem Task.isCapture_withDwell (dwell : Binary64) (task : Task) :
    (task.withDwell dwell).isCapture = task.isCapture := by
  cases task <;> rfl

theorem Group.CapturesAlone.withDwell {group : Group} (h : group.CapturesAlone)
    (dwell : Binary64) : (group.withDwell dwell).CapturesAlone := by
  rw [capturesAlone_iff] at h ⊢
  simpa [Function.comp_def] using h

namespace Catalog

open Diagnostics.Json (field? setField changeField changeItems changeFields
  field?_setField_self field?_setField_of_ne field?_changeField_self field?_changeField_of_ne)

/-- Replacing dwells does not touch what has to be used once. -/
theorem checkUnique_overrideDwell {groups : List Group} (h : checkUnique groups = .ok ())
    (dwell : Binary64) : checkUnique (overrideDwell (some dwell) groups) = .ok () := by
  rw [checkUnique_ok_iff] at h ⊢
  obtain ⟨hnames, houtputs, halone⟩ := h
  refine ⟨?_, ?_, ?_⟩
  · simpa [overrideDwell, Function.comp_def] using hnames
  · simpa [overrideDwell, List.flatMap_map, Function.comp_def] using houtputs
  · intro group hgroup
    obtain ⟨old, hold, rfl⟩ := List.mem_map.mp hgroup
    exact (halone old hold).withDwell dwell

/-! ## Documents with another dwell -/

/-- The fields of a task with the dwell set, if it is a capture. -/
def setDwell (v : Json) (fields : List (Text × Json)) : List (Text × Json) :=
  match field? "type" fields with
  | some (.text kind) => if kind = "capture" then setField "dwell_seconds" v fields else fields
  | _ => fields

/-- The fields of a group with the dwell of each capture set. -/
def setGroupDwells (v : Json) : List (Text × Json) → List (Text × Json) :=
  changeField "tasks" (changeItems (changeFields (setDwell v)))

/-- A document with the dwell of each of its captures set. -/
def setDwells (v : Json) : Json → Json :=
  changeFields (changeField "groups" (changeItems (changeFields (setGroupDwells v))))

section

variable {fields : List (Text × Json)} {v : Json} {dwell : Binary64}

theorem DescribesCapture.setDwell {task : CaptureTask} (h : DescribesCapture .checked fields task)
    (hv : IsSeconds Bounds.checked.dwell v dwell) :
    DescribesCapture .checked (setField "dwell_seconds" v fields) { task with dwell := dwell } where
  start := by
    rw [field?_setField_of_ne (by decide)]
    exact h.start
  stop := by
    rw [field?_setField_of_ne (by decide)]
    exact h.stop
  dwell := by
    rw [field?_setField_self]
    exact hv

theorem DescribesTask.setDwell {task : Task} (h : DescribesTask .checked fields task)
    (hv : IsSeconds Bounds.checked.dwell v dwell) :
    DescribesTask .checked (Catalog.setDwell v fields) (task.withDwell dwell) := by
  unfold Catalog.setDwell
  cases h with
  | process kind h =>
    simp only [kind, if_neg capture_ne_process.symm]
    exact .process kind h
  | query kind h =>
    simp only [kind, if_neg capture_ne_query.symm]
    exact .query kind h
  | capture kind h =>
    simp only [kind, ↓reduceIte]
    refine .capture ?_ (h.setDwell hv)
    rw [field?_setField_of_ne (by decide)]
    exact kind

/-- An array whose objects are edited describes what was edited in the same way. -/
theorem forall₂_changeFields {α : Type} {reads : List (Text × Json) → α → Prop}
    {change : List (Text × Json) → List (Text × Json)} {f : α → α}
    (hchange : ∀ fields a, reads fields a → reads (change fields) (f a)) {vs : List Json}
    {list : List α} (h : List.Forall₂ (IsObject reads) vs list) :
    List.Forall₂ (IsObject reads) (vs.map (changeFields change)) (list.map f) := by
  rw [List.forall₂_map_left_iff, List.forall₂_map_right_iff]
  refine h.imp ?_
  rintro _ a ⟨fields, rfl, hreads⟩
  exact ⟨_, rfl, hchange fields a hreads⟩

theorem DescribesWork.setDwell {work : Work} (h : DescribesWork .checked fields work)
    (hv : IsSeconds Bounds.checked.dwell v dwell) (name : Text) (trace : Bool) :
    DescribesWork .checked (setGroupDwells v fields)
      (Group.withDwell dwell ⟨name, trace, work⟩).work := by
  unfold setGroupDwells
  cases h with
  | tasks alone h =>
    obtain ⟨vs, hvs, htasks⟩ := requiredField_isArray_iff.mp h
    refine .tasks ?_ (requiredField_isArray_iff.mpr ⟨vs.map (changeFields (Catalog.setDwell v)), ?_,
      forall₂_changeFields (fun _ _ htask => htask.setDwell hv) htasks⟩)
    · rw [field?_changeField_of_ne (by decide)]
      exact alone
    · rw [field?_changeField_self, hvs]
      rfl
  | roots alone h =>
    refine .roots ?_ ?_
    · rw [field?_changeField_self, alone]
      rfl
    · rw [field?_changeField_of_ne (by decide)]
      exact h

theorem DescribesGroup.setDwell {group : Group} (h : DescribesGroup .checked fields group)
    (hv : IsSeconds Bounds.checked.dwell v dwell) :
    DescribesGroup .checked (setGroupDwells v fields) (group.withDwell dwell) where
  name := by
    rw [setGroupDwells, field?_changeField_of_ne (by decide), Group.withDwell_name]
    exact h.name
  trace := by
    rw [setGroupDwells, field?_changeField_of_ne (by decide),
      (group.sameButDwell_withDwell dwell).trace]
    exact h.trace
  work := h.work.setDwell hv group.name group.trace

/-- A document in which dwells are set is read as the groups in which they are replaced. -/
theorem parse_setDwells {document : Json} {groups : List Group} (h : parse document = .ok groups)
    (hv : IsSeconds Bounds.checked.dwell v dwell) :
    parse (setDwells v document) = .ok (overrideDwell (some dwell) groups) := by
  obtain ⟨⟨fields, rfl, hgroups⟩, hunique⟩ := parse_ok_iff.mp h
  obtain ⟨vs, hvs, hread⟩ := requiredField_isArray_iff.mp hgroups
  refine parse_ok_iff.mpr ⟨⟨_, rfl, requiredField_isArray_iff.mpr
    ⟨vs.map (changeFields (setGroupDwells v)), ?_, ?_⟩⟩, checkUnique_overrideDwell hunique dwell⟩
  · rw [field?_changeField_self, hvs]
    rfl
  · exact forall₂_changeFields (fun _ _ hgroup => hgroup.setDwell hv) hread

end

/-- **Replacing the dwell is editing the catalog.** For every accepted document and every number of
seconds that is at least zero, however it is written, the document in which each capture has it for
its dwell is accepted, and read as the groups in which it replaces the dwells. Groups and their
tasks stand where they stood and differ in nothing else, and of two replacements the later one
stays. -/
theorem override_is_edit {document : Json} {groups : List Group} (h : parse document = .ok groups)
    {v : Json} {dwell : Binary64} (hv : IsSeconds Bounds.stated.dwell v dwell) :
    parse (setDwells v document) = .ok (overrideDwell (some dwell) groups) ∧
      List.Forall₂ (Group.SameButDwell dwell) groups (overrideDwell (some dwell) groups) ∧
      ∀ later, overrideDwell (some later) (overrideDwell (some dwell) groups) =
        overrideDwell (some later) groups := by
  have hchecked : IsSeconds Bounds.checked.dwell v dwell :=
    hv.mono fun _ _ hbound => Bounds.checked_of_stated.2 hbound
  refine ⟨parse_setDwells h hchecked, ?_, fun later => overrideDwell_overrideDwell dwell later groups⟩
  show List.Forall₂ (Group.SameButDwell dwell) groups (groups.map (Group.withDwell dwell))
  rw [List.forall₂_map_right_iff, List.forall₂_same]
  exact fun group _ => group.sameButDwell_withDwell dwell

/-- A dwell of five seconds, written as an integer, in a catalog whose capture tells none. -/
theorem override_is_edit_sparse :
    parse sparseCatalog = .ok sparseGroups ∧
      IsSeconds Bounds.stated.dwell (.integer 5) (.finite false (5 * 2 ^ 50) (-50)) ∧
      parse (setDwells (.integer 5) sparseCatalog) =
        .ok (overrideDwell (some (.finite false (5 * 2 ^ 50) (-50))) sparseGroups) ∧
      overrideDwell (some (.finite false (5 * 2 ^ 50) (-50))) sparseGroups ≠ sparseGroups := by
  have hparse : parse sparseCatalog = .ok sparseGroups := by decide +kernel
  have hfive : IsSeconds Bounds.stated.dwell (.integer 5) (.finite false (5 * 2 ^ 50) (-50)) :=
    ⟨.integer 5, rfl, Int.le_of_lt (by decide), by decide +kernel⟩
  exact ⟨hparse, hfive, (override_is_edit hparse hfive).1, by decide +kernel⟩

end Catalog

end Diagnostics
