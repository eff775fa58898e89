import Diagnostics.Json.Value

/-!
# Editing documents

A document is edited by setting a field of an object (`setField`), or by changing what stands in a
field (`changeField`), among the values of an array, or among the fields of an object. Since it is
the last field of a name that counts, setting one leaves no other of its name, and changing one
changes all of its name.

What is read of an object after an edit are four equations: the field that was edited is the one
that was put there, and any other field is as it was.
-/

set_option autoImplicit false

namespace Diagnostics.Json

/-- Fields with one value in the place of all that a name had. -/
def setField (name : Text) (v : Json) (fields : List (Text × Json)) : List (Text × Json) :=
  fields.filter (·.1 ≠ name) ++ [(name, v)]

/-- Fields with each value of a name changed. -/
def changeField (name : Text) (change : Json → Json) (fields : List (Text × Json)) :
    List (Text × Json) :=
  fields.map fun field => (field.1, if field.1 = name then change field.2 else field.2)

/-- An array with each value changed; what is no array stays. -/
def changeItems (change : Json → Json) : Json → Json
  | .array items => .array (items.map change)
  | v => v

/-- An object with its fields changed; what is no object stays. -/
def changeFields (change : List (Text × Json) → List (Text × Json)) : Json → Json
  | .object fields => .object (change fields)
  | v => v

section

variable {name other : Text} {fields : List (Text × Json)}

theorem field?_filter_of_ne (h : other ≠ name) :
    field? other (fields.filter (·.1 ≠ name)) = field? other fields := by
  induction fields with
  | nil => rfl
  | cons field fields ih =>
    by_cases hname : field.1 = name
    · -- What was left out has another name.
      have hother : field.1 ≠ other := fun heq => h (heq.symm.trans hname)
      rw [List.filter_cons_of_neg (by simpa using hname), ih, field?]
      cases field? other fields with
      | some w => rfl
      | none => simp [hother]
    · rw [List.filter_cons_of_pos (by simpa using hname), field?, field?, ih]

theorem field?_setField_self (v : Json) : field? name (setField name v fields) = some v :=
  field?_append_singleton name v _

theorem field?_setField_of_ne (h : other ≠ name) (v : Json) :
    field? other (setField name v fields) = field? other fields := by
  unfold setField
  rw [field?_append_singleton_of_ne (Ne.symm h), field?_filter_of_ne h]

/-- What is read of any field when the values of one name have been changed. -/
theorem field?_changeField (change : Json → Json) :
    field? other (changeField name change fields) =
      (field? other fields).map fun v => if other = name then change v else v := by
  induction fields with
  | nil => rfl
  | cons field fields ih =>
    unfold changeField at ih ⊢
    rw [List.map_cons, field?, field?, ih]
    cases field? other fields with
    | some w => rfl
    | none => by_cases hother : field.1 = other <;> simp [hother]

theorem field?_changeField_self (change : Json → Json) :
    field? name (changeField name change fields) = (field? name fields).map change := by
  simp [field?_changeField]

theorem field?_changeField_of_ne (h : other ≠ name) (change : Json → Json) :
    field? other (changeField name change fields) = field? other fields := by
  simp [field?_changeField, h]

end

end Diagnostics.Json
