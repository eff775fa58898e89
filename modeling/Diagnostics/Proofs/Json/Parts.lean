import Diagnostics.Json.Value

/-!
# Parts of a document

A document has parts, itself among them (`IsPart`). Of an object, the fields that count are parts; a
field that a later one of its name hides is none. `every` checks a document part by part, and what
passes the check holds of each part (`of_every`).
-/

set_option autoImplicit false

namespace Diagnostics.Json

/-- A value is the document or stands somewhere in it. -/
inductive IsPart (v : Json) : Json → Prop
  | self : IsPart v v
  | item {w : Json} {items : List Json} (hw : w ∈ items) (h : IsPart v w) : IsPart v (.array items)
  | field {w : Json} {name : Text} {fields : List (Text × Json)}
      (hw : field? name fields = some w) (h : IsPart v w) : IsPart v (.object fields)

mutual

/-- Whether a document passes a check with everything in it, hidden fields included. -/
def every (p : Json → Bool) : Json → Bool
  | .array items => p (.array items) && everyItem p items
  | .object fields => p (.object fields) && everyField p fields
  | v => p v

def everyItem (p : Json → Bool) : List Json → Bool
  | [] => true
  | v :: vs => every p v && everyItem p vs

def everyField (p : Json → Bool) : List (Text × Json) → Bool
  | [] => true
  | (_, v) :: fields => every p v && everyField p fields

end

theorem of_everyItem {p : Json → Bool} {items : List Json} (h : everyItem p items = true) :
    ∀ v ∈ items, every p v = true := by
  induction items with
  | nil => simp
  | cons v vs ih =>
    rw [everyItem, Bool.and_eq_true] at h
    exact List.forall_mem_cons.mpr ⟨h.1, ih h.2⟩

theorem of_everyField {p : Json → Bool} {fields : List (Text × Json)}
    (h : everyField p fields = true) {name : Text} {v : Json} (hv : field? name fields = some v) :
    every p v = true := by
  induction fields with
  | nil => cases hv
  | cons f fields ih =>
    rw [everyField, Bool.and_eq_true] at h
    unfold field? at hv
    split at hv
    next hlater =>
      cases hv
      exact ih h.2 hlater
    next =>
      split at hv
      · cases hv
        exact h.1
      · cases hv

theorem self_of_every {p : Json → Bool} {v : Json} (h : every p v = true) : p v = true := by
  cases v with
  | array items =>
    rw [every, Bool.and_eq_true] at h
    exact h.1
  | object fields =>
    rw [every, Bool.and_eq_true] at h
    exact h.1
  | _ => exact h

/-- What every value in a document passes is so of each of its parts. -/
theorem of_every {p : Json → Bool} {document v : Json} (hpart : IsPart v document)
    (h : document.every p = true) : p v = true := by
  induction hpart with
  | self => exact self_of_every h
  | item hw _ ih =>
    rw [every, Bool.and_eq_true] at h
    exact ih (of_everyItem h.2 _ hw)
  | field hw _ ih =>
    rw [every, Bool.and_eq_true] at h
    exact ih (of_everyField h.2 hw)

end Diagnostics.Json
