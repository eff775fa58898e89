import Diagnostics.Proofs.Catalog.Accepted
import Diagnostics.Proofs.Footprint
import Diagnostics.Gather
import Mathlib.Data.List.Flatten
import Mathlib.Data.List.Nodup

/-!
# What it means that names are used once

The reader checks groups one after another against what it has seen so far. It accepts those in
which no group's name stands twice and no artifact's name does, in one group or in two, and in which
a capture shares its group with no other task (`checkUnique_ok_iff`). That stays so when the dwell
of captures is replaced.
-/

set_option autoImplicit false

namespace Diagnostics

/-- A capture is the only task of the group. -/
def Group.CapturesAlone (group : Group) : Prop :=
  ∀ task ∈ group.tasks, task.isCapture = true → group.tasks = [task]

theorem Group.capturesAlone_iff {group : Group} :
    group.CapturesAlone ↔ (1 < group.tasks.length && group.tasks.any Task.isCapture) = false := by
  rw [Bool.and_eq_false_imp, decide_eq_true_iff]
  constructor
  · intro h hlength
    refine List.any_eq_false.mpr fun task htask hcapture => ?_
    rw [h task htask hcapture] at hlength
    exact Nat.lt_irrefl 1 hlength
  · intro h task htask hcapture
    have hlength : ¬ 1 < group.tasks.length := fun hlength =>
      List.any_eq_false.mp (h hlength) task htask hcapture
    obtain ⟨only, honly⟩ := List.length_eq_one_iff.mp
      (Nat.le_antisymm (Nat.not_lt.mp hlength) (List.length_pos_of_mem htask))
    rw [honly] at htask ⊢
    rw [List.mem_singleton.mp htask]

namespace Catalog

/-- The artifact of a task, and its owner in words. -/
def owned (group : Text) (task : Task) : Text × Text :=
  (task.output, group ++ "/" ++ task.label)

theorem lookup_eq_none_iff {owners : Owners} {output : Text} :
    owners.lookup output = none ↔ output ∉ owners.map Prod.fst := by
  rw [List.lookup_eq_none_iff, List.mem_map]
  constructor
  · rintro h ⟨owner, howner, rfl⟩
    simpa using h owner howner
  · intro h owner howner
    exact bne_iff_ne.mpr fun heq => h ⟨owner, howner, heq.symm⟩

/-- The tasks of a group add their artifacts to those that were seen, and none was. -/
theorem checkTasks_ok_iff {group : Text} {tasks : List Task} :
    ∀ {owners owners' : Owners}, checkTasks group owners tasks = .ok owners' ↔
      (tasks.map Task.output).Nodup ∧
      (tasks.map Task.output).Disjoint (owners.map Prod.fst) ∧
      owners' = (tasks.map (owned group)).reverse ++ owners := by
  induction tasks with
  | nil =>
    intro owners owners'
    simp [checkTasks, eq_comm]
  | cons task tasks ih =>
    intro owners owners'
    have hcons : checkTasks group owners (task :: tasks) = .ok owners' ↔
        owners.lookup task.output = none ∧
          checkTasks group (owned group task :: owners) tasks = .ok owners' := by
      rw [checkTasks]
      cases owners.lookup task.output <;> simp [owned]
    rw [hcons, lookup_eq_none_iff, ih]
    simp only [owned, List.map_cons, List.nodup_cons, List.disjoint_cons_left,
      List.disjoint_cons_right, List.reverse_cons, List.append_assoc, List.singleton_append]
    tauto

/-- A group passes the check when its name is new, its captures are alone, and its artifacts can be
added to those that were seen. -/
theorem checkGroups_cons_ok_iff {names : List Text} {owners : Owners} {group : Group}
    {groups : List Group} :
    checkGroups names owners (group :: groups) = .ok () ↔
      group.name ∉ names ∧ group.CapturesAlone ∧
      ∃ owners', checkTasks group.name owners group.tasks = .ok owners' ∧
        checkGroups (group.name :: names) owners' groups = .ok () := by
  rw [checkGroups, Group.capturesAlone_iff]
  by_cases hname : group.name ∈ names
  · simp [hname]
  · rw [if_neg hname]
    cases hwork : group.work with
    | tasks tasks =>
      rw [Group.tasks_of_work hwork]
      cases hcapture : 1 < tasks.length && tasks.any Task.isCapture with
      | true => simp [hcapture]
      | false =>
        cases hchecked : checkTasks group.name owners tasks <;> simp [hcapture, hname, hchecked]
    | roots roots => simp [Group.tasks, hwork, checkTasks, hname]
    | broken fault => simp [Group.tasks, hwork, checkTasks, hname]

/-- Groups that pass the check have names and artifacts that were not seen, each once. -/
theorem checkGroups_ok_iff {groups : List Group} :
    ∀ {names : List Text} {owners : Owners}, checkGroups names owners groups = .ok () ↔
      ((groups.map Group.name).Nodup ∧ (groups.map Group.name).Disjoint names) ∧
      ((groups.flatMap Group.outputs).Nodup ∧
        (groups.flatMap Group.outputs).Disjoint (owners.map Prod.fst)) ∧
      ∀ group ∈ groups, group.CapturesAlone := by
  induction groups with
  | nil => simp [checkGroups]
  | cons group groups ih =>
    intro names owners
    rw [checkGroups_cons_ok_iff]
    simp only [checkTasks_ok_iff, ih]
    -- The rest is checked against the artifacts of this group as well.
    have hseen : ∀ outputs : List Text,
        outputs.Disjoint (((group.tasks.map (owned group.name)).reverse ++ owners).map Prod.fst) ↔
          outputs.Disjoint group.outputs ∧ outputs.Disjoint (owners.map Prod.fst) := by
      intro outputs
      rw [List.map_append, List.disjoint_append_right, List.map_reverse,
        List.disjoint_reverse_right, List.map_map]
      rfl
    rw [List.map_cons, List.flatMap_cons, List.nodup_cons, List.nodup_append',
      List.disjoint_cons_left, List.disjoint_append_left, List.forall_mem_cons]
    constructor
    · rintro ⟨hname, halone, _, ⟨hnodup, hfresh, rfl⟩, ⟨hnames, hnew⟩, ⟨houtputs, hall⟩, hrest⟩
      obtain ⟨hnew, hold⟩ := List.disjoint_cons_right.mp hnew
      obtain ⟨hown, hall⟩ := (hseen _).mp hall
      exact ⟨⟨⟨hnew, hnames⟩, hname, hold⟩,
        ⟨⟨hnodup, houtputs, List.disjoint_comm.mp hown⟩, hfresh, hall⟩, halone, hrest⟩
    · rintro ⟨⟨⟨hnew, hnames⟩, hname, hold⟩, ⟨⟨hnodup, houtputs, hown⟩, hfresh, hall⟩, halone,
        hrest⟩
      exact ⟨hname, halone, _, ⟨hnodup, hfresh, rfl⟩,
        ⟨hnames, List.disjoint_cons_right.mpr ⟨hnew, hold⟩⟩,
        ⟨houtputs, (hseen _).mpr ⟨List.disjoint_comm.mp hown, hall⟩⟩, hrest⟩

/-- **Names are used once** in what passes the check, and captures are alone. -/
theorem checkUnique_ok_iff {groups : List Group} :
    checkUnique groups = .ok () ↔
      (groups.map Group.name).Nodup ∧ (groups.flatMap Group.outputs).Nodup ∧
      ∀ group ∈ groups, group.CapturesAlone := by
  simp [checkUnique, checkGroups_ok_iff]

end Catalog

/-- The artifacts of an accepted group have bare names. -/
theorem Group.IsCatalogued.isBareName {group : Group} (h : group.IsCatalogued) :
    ∀ output ∈ group.outputs, IsBareName output := by
  intro output hout
  obtain ⟨task, htask, rfl⟩ := List.mem_map.mp hout
  unfold Group.IsCatalogued at h
  unfold Group.tasks at htask
  cases hwork : group.work with
  | tasks tasks =>
    rw [hwork] at h htask
    have hcatalogued : task.IsCatalogued := h task htask
    cases task with
    | process task => exact hcatalogued
    | query task => exact hcatalogued
    | capture task => exact hcatalogued.2.2
    | stub output fault => exact hcatalogued.elim
  | roots roots =>
    rw [hwork] at htask
    exact absurd htask List.not_mem_nil
  | broken fault =>
    rw [hwork] at htask
    exact absurd htask List.not_mem_nil

/-! ## The dwell of captures -/

@[simp] theorem Task.withDwell_output (dwell : Binary64) (task : Task) :
    (task.withDwell dwell).output = task.output := by
  cases task <;> rfl

theorem Task.IsCatalogued.withDwell {task : Task} (h : task.IsCatalogued) (dwell : Binary64) :
    (task.withDwell dwell).IsCatalogued := by
  cases task <;> exact h

namespace Group

@[simp] theorem withDwell_name (dwell : Binary64) (group : Group) :
    (group.withDwell dwell).name = group.name := by
  unfold withDwell
  cases group.work <;> rfl

@[simp] theorem withDwell_tasks (dwell : Binary64) (group : Group) :
    (group.withDwell dwell).tasks = group.tasks.map (Task.withDwell dwell) := by
  unfold withDwell tasks
  cases hwork : group.work <;> simp [hwork]

@[simp] theorem withDwell_outputs (dwell : Binary64) (group : Group) :
    (group.withDwell dwell).outputs = group.outputs := by
  simp [outputs, Function.comp_def]

theorem IsCatalogued.withDwell {group : Group} (h : group.IsCatalogued) (dwell : Binary64) :
    (group.withDwell dwell).IsCatalogued := by
  unfold Group.withDwell IsCatalogued at *
  cases hwork : group.work with
  | tasks tasks =>
    rw [hwork] at h
    intro task htask
    obtain ⟨old, hold, rfl⟩ := List.mem_map.mp htask
    exact (h old hold).withDwell dwell
  | roots roots => trivial
  | broken fault =>
    rw [hwork] at h
    exact h.elim

end Group

/-- Replacing the dwell keeps what an accepted catalog guarantees. -/
theorem overrideDwell_ok {groups : List Group} (dwell : Option Binary64)
    (hcatalogued : ∀ group ∈ groups, group.IsCatalogued)
    (hunique : (groups.map Group.name).Nodup ∧ (groups.flatMap Group.outputs).Nodup) :
    (∀ group ∈ overrideDwell dwell groups, group.IsCatalogued) ∧
      ((overrideDwell dwell groups).map Group.name).Nodup ∧
      ((overrideDwell dwell groups).flatMap Group.outputs).Nodup := by
  cases dwell with
  | none => exact ⟨hcatalogued, hunique⟩
  | some dwell =>
    refine ⟨fun group hgroup => ?_, ?_, ?_⟩
    · obtain ⟨old, hold, rfl⟩ := List.mem_map.mp hgroup
      exact (hcatalogued old hold).withDwell dwell
    · show ((groups.map (Group.withDwell dwell)).map Group.name).Nodup
      simpa [Function.comp_def] using hunique.1
    · show ((groups.map (Group.withDwell dwell)).flatMap Group.outputs).Nodup
      simpa [List.flatMap_map, Function.comp_def] using hunique.2

/-- What is selected of an accepted catalog is as the reader leaves it, and names are used once. -/
theorem selectedGroups_ok {document : Json} {groups : List Group}
    (hparse : Catalog.parse document = .ok groups) (dwell : Option Binary64) (includeTrace : Bool) :
    (∀ group ∈ selectedGroups (overrideDwell dwell groups) includeTrace, group.IsCatalogued) ∧
      ((selectedGroups (overrideDwell dwell groups) includeTrace).map Group.name).Nodup ∧
      ((selectedGroups (overrideDwell dwell groups) includeTrace).flatMap Group.outputs).Nodup := by
  obtain ⟨hcatalogued, hunique⟩ := Catalog.parse_ok hparse
  obtain ⟨hnames, houtputs, -⟩ := Catalog.checkUnique_ok_iff.mp hunique
  obtain ⟨hcatalogued, hnames, houtputs⟩ :=
    overrideDwell_ok dwell hcatalogued ⟨hnames, houtputs⟩
  have hsublist : (selectedGroups (overrideDwell dwell groups) includeTrace).Sublist
      (overrideDwell dwell groups) := List.filter_sublist
  exact ⟨fun group hgroup => hcatalogued group (hsublist.mem hgroup),
    hnames.sublist (hsublist.map Group.name), houtputs.sublist (hsublist.flatMap Group.outputs)⟩

/-- An artifact's name tells its group, if no name is used twice. -/
theorem eq_of_mem_outputs {groups : List Group} (h : (groups.flatMap Group.outputs).Nodup)
    {group other : Group} (hgroup : group ∈ groups) (hother : other ∈ groups) {output : Text}
    (hin : output ∈ group.outputs) (hin' : output ∈ other.outputs) : group = other := by
  induction groups with
  | nil => exact absurd hgroup List.not_mem_nil
  | cons first groups ih =>
    rw [List.flatMap_cons, List.nodup_append'] at h
    obtain ⟨-, hrest, hdisjoint⟩ := h
    rcases List.mem_cons.mp hgroup with rfl | hmem
    · rcases List.mem_cons.mp hother with rfl | hmem'
      · rfl
      · exact (hdisjoint hin (List.mem_flatMap.mpr ⟨other, hmem', hin'⟩)).elim
    · rcases List.mem_cons.mp hother with rfl | hmem'
      · exact (hdisjoint hin' (List.mem_flatMap.mpr ⟨group, hmem, hin⟩)).elim
      · exact ih hrest hmem hmem'

end Diagnostics
