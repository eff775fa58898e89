import Diagnostics.Proofs.Catalog.Unique
import Diagnostics.Proofs.Number.Sign

/-!
# The durations of an accepted catalog

The reader refuses a limit that is at most zero and a dwell that is below it. An integer is compared
as it is written and rounded afterwards, which does not bring it to zero, and the dwell that stands
for a missing one is not below zero. So no limit of an accepted catalog is at most zero and no dwell
below it (`parse_isTimely`), and replacing dwells by one that is not below zero either keeps that.

It says less than that limits are positive and dwells at least zero: a NaN compares with nothing,
and passes.
-/

set_option autoImplicit false

namespace Diagnostics

/-- No program of the task has a limit that is at most zero, and no trace a dwell below it. -/
structure Task.IsTimely (task : Task) : Prop where
  timeout : ∀ program ∈ task.processes, ∀ limit, program.timeout = some limit → ¬ limit ≤ 0
  dwell : ∀ capture, task = .capture capture → ¬ capture.dwell < 0

def Group.IsTimely (group : Group) : Prop :=
  ∀ task ∈ group.tasks, task.IsTimely

theorem CaptureTask.not_defaultDwell_lt_zero : ¬ defaultDwell < 0 := by
  have hpos : 0 < Binary64.ofRatio false 600 1 :=
    Binary64.zero_lt_ofRatio Nat.one_pos (by decide)
  unfold defaultDwell
  exact Binary64.not_lt_of_le (Or.inl hpos)

/-! ## What the reader takes for a duration -/

namespace Catalog

theorem Seconds.toBinary64_integer_ok_iff {i : Int} {x : Binary64} :
    (Seconds.integer i).toBinary64 = .ok x ↔ Binary64.ofInt? i = some x := by
  cases hi : Binary64.ofInt? i <;> simp [Seconds.toBinary64, hi]

section

variable {fields : List (Text × Json)} {v : Json} {x : Binary64}

theorem IsSeconds.not_le_zero (h : IsSeconds Bounds.checked.timeout v x) : ¬ x ≤ 0 := by
  obtain ⟨t, -, hchecked, hrounded⟩ := h
  cases t with
  | integer i =>
    have hpos : 0 < i := Int.not_le.mp (of_decide_eq_false hchecked)
    exact Binary64.not_le_of_lt
      (Binary64.zero_lt_ofInt? hpos (Seconds.toBinary64_integer_ok_iff.mp hrounded))
  | number y =>
    cases hrounded
    exact of_decide_eq_false hchecked

theorem IsSeconds.not_lt_zero (h : IsSeconds Bounds.checked.dwell v x) : ¬ x < 0 := by
  obtain ⟨t, -, hchecked, hrounded⟩ := h
  cases t with
  | integer i =>
    have hnonneg : 0 ≤ i := Int.not_lt.mp (of_decide_eq_false hchecked)
    exact Binary64.not_lt_of_le
      (Binary64.zero_le_ofInt? hnonneg (Seconds.toBinary64_integer_ok_iff.mp hrounded))
  | number y =>
    cases hrounded
    exact of_decide_eq_false hchecked

/-- A limit on time was read from a number in bounds. -/
theorem DescribesProcess.exists_isSeconds {ownFile : Option Bool} {task : ProcessTask}
    (h : DescribesProcess .checked fields ownFile task) {limit : Binary64}
    (hlimit : task.timeout = some limit) : ∃ v, IsSeconds Bounds.checked.timeout v limit := by
  have htimeout := h.timeout
  rw [hlimit] at htimeout
  cases hfield : Json.field? "timeout_seconds" fields with
  | none =>
    rw [hfield] at htimeout
    cases htimeout
  | some v =>
    rw [hfield] at htimeout
    rcases htimeout with ⟨-, ⟨⟩⟩ | ⟨_, ⟨⟩, hseconds⟩
    exact ⟨v, hseconds⟩

theorem DescribesProcess.not_le_zero {ownFile : Option Bool} {task : ProcessTask}
    (h : DescribesProcess .checked fields ownFile task) {limit : Binary64}
    (hlimit : task.timeout = some limit) : ¬ limit ≤ 0 := by
  obtain ⟨v, hseconds⟩ := h.exists_isSeconds hlimit
  exact hseconds.not_le_zero

theorem DescribesCapture.not_lt_zero {task : CaptureTask}
    (h : DescribesCapture .checked fields task) : ¬ task.dwell < 0 := by
  have hdwell := h.dwell
  cases hfield : Json.field? "dwell_seconds" fields with
  | none =>
    rw [hfield, optionalField_none] at hdwell
    rw [hdwell]
    exact CaptureTask.not_defaultDwell_lt_zero
  | some v =>
    rw [hfield] at hdwell
    exact IsSeconds.not_lt_zero hdwell

theorem DescribesTask.isTimely {task : Task} (h : DescribesTask .checked fields task) :
    task.IsTimely := by
  cases h with
  | process kind h =>
    refine ⟨fun program hprogram limit hlimit => ?_, ?_⟩
    · rw [List.mem_singleton.mp hprogram] at hlimit
      exact h.not_le_zero hlimit
    · rintro _ ⟨⟩
  | query kind h =>
    constructor
    · rintro _ ⟨⟩
    · rintro _ ⟨⟩
  | capture kind h =>
    obtain ⟨startFields, -, hstart⟩ := requiredField_isObject_iff.mp h.start
    obtain ⟨stopFields, -, hstop⟩ := requiredField_isObject_iff.mp h.stop
    refine ⟨fun program hprogram limit hlimit => ?_, ?_⟩
    · rcases List.mem_pair.mp hprogram with rfl | rfl
      · exact hstart.not_le_zero hlimit
      · exact hstop.not_le_zero hlimit
    · rintro _ ⟨⟩
      exact h.not_lt_zero

theorem DescribesGroup.isTimely {group : Group} (h : DescribesGroup .checked fields group) :
    group.IsTimely := by
  intro task htask
  have hwork := h.work
  unfold Group.tasks at htask
  cases hgroup : group.work with
  | tasks tasks =>
    rw [hgroup] at hwork htask
    cases hwork with
    | tasks alone htasks =>
      obtain ⟨_, _, -, h⟩ := exists_of_mem_array htasks htask
      exact h.isTimely
  | roots roots =>
    rw [hgroup] at htask
    exact absurd htask List.not_mem_nil
  | broken fault =>
    rw [hgroup] at htask
    exact absurd htask List.not_mem_nil

/-- **No duration of an accepted catalog is on the wrong side of zero.** -/
theorem parse_isTimely {document : Json} {groups : List Group} (h : parse document = .ok groups) :
    ∀ group ∈ groups, group.IsTimely := by
  obtain ⟨⟨fields, -, hgroups⟩, -⟩ := parse_ok_iff.mp h
  intro group hgroup
  obtain ⟨_, _, -, h⟩ := exists_of_mem_array hgroups hgroup
  exact h.isTimely

end

end Catalog

/-! ## The dwell of captures -/

theorem Task.IsTimely.withDwell {task : Task} (h : task.IsTimely) {dwell : Binary64}
    (hdwell : ¬ dwell < 0) : (task.withDwell dwell).IsTimely := by
  cases task with
  | capture capture =>
    refine ⟨h.timeout, ?_⟩
    rintro _ ⟨⟩
    exact hdwell
  | process task => exact h
  | query task => exact h
  | stub output fault => exact h

theorem Group.IsTimely.withDwell {group : Group} (h : group.IsTimely) {dwell : Binary64}
    (hdwell : ¬ dwell < 0) : (group.withDwell dwell).IsTimely := by
  intro task htask
  rw [Group.withDwell_tasks] at htask
  obtain ⟨old, hold, rfl⟩ := List.mem_map.mp htask
  exact (h old hold).withDwell hdwell

/-- Replacing the dwell by one that is not below zero keeps durations on their side. -/
theorem isTimely_of_mem_overrideDwell {groups : List Group} (h : ∀ group ∈ groups, group.IsTimely)
    {dwell : Option Binary64} (hdwell : dwell.any (· < 0) = false) :
    ∀ group ∈ overrideDwell dwell groups, group.IsTimely := by
  cases dwell with
  | none => exact h
  | some dwell =>
    intro group hgroup
    obtain ⟨old, hold, rfl⟩ := List.mem_map.mp hgroup
    exact (h old hold).withDwell (of_decide_eq_false hdwell)

end Diagnostics
