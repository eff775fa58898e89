import Diagnostics.Number.Binary64
import Diagnostics.Text.Basic

/-!
# JSON values

A catalog arrives as a JSON document and a run's report leaves as one. Integers and binary64
numbers are kept apart, because an integer too large for binary64 is a fault of its own while a
decimal that is too large is merely infinite.

An object keeps its fields as they were written, repeated names included. The field that counts is
the last one of a name (`field?`), so a repeated name needs no policy anywhere else.
-/

set_option autoImplicit false

namespace Diagnostics

/-- A JSON value. Infinities and NaN are among the numbers. -/
inductive Json where
  | null
  | bool (b : Bool)
  | integer (i : Int)
  | number (x : Binary64)
  | text (s : Text)
  | array (items : List Json)
  | object (fields : List (Text × Json))
  deriving Repr, Inhabited

namespace Json

/-- The last field of a name. -/
def field? (name : Text) : List (Text × Json) → Option Json
  | [] => none
  | (n, v) :: fields =>
    match field? name fields with
    | some w => some w
    | none => if n = name then some v else none

@[simp] theorem field?_nil (name : Text) : field? name [] = none := rfl

/-- A field written after all others counts. -/
theorem field?_append_singleton (name : Text) (v : Json) (fields : List (Text × Json)) :
    field? name (fields ++ [(name, v)]) = some v := by
  induction fields with
  | nil => simp [field?]
  | cons f fields ih => simp [field?, ih]

theorem field?_append_singleton_of_ne {name other : Text} (h : other ≠ name) (v : Json)
    (fields : List (Text × Json)) :
    field? name (fields ++ [(other, v)]) = field? name fields := by
  induction fields with
  | nil => simp [field?, h]
  | cons f fields ih => simp [field?, ih]

end Json

end Diagnostics
