import Diagnostics.Proofs.Catalog.Grammar
import Diagnostics.Proofs.Json.Parts

/-!
# Fields that are not read are complained about

A reading that fails does so with faults of a kind (`FailsWith`). A field that is not read is
complained about, and the complaint is about the place that the reader was told (`ComplainsAt`).
Numbers of seconds are read as they are written, and have still to be brought to binary64, which can
fail in another way; in a document in which it cannot (`SecondsFit`), nothing else than a rejection
is told when it is not read (`OnlyRejects`).
-/

set_option autoImplicit false

namespace Diagnostics

namespace Catalog

open Diagnostics.Json (field? IsPart)

/-- The integers that stand for numbers of seconds have a binary64 form. -/
structure SecondsFit (document : Json) : Prop where
  timeout : ∀ fields i, IsPart (.object fields) document →
    field? "timeout_seconds" fields = some (.integer i) → Binary64.ofInt? i ≠ none
  dwell : ∀ fields i, IsPart (.object fields) document →
    field? "dwell_seconds" fields = some (.integer i) → Binary64.ofInt? i ≠ none

theorem SecondsFit.item {items : List Json} (h : SecondsFit (.array items)) {v : Json}
    (hv : v ∈ items) : SecondsFit v where
  timeout fields i hpart := h.timeout fields i (.item hv hpart)
  dwell fields i hpart := h.dwell fields i (.item hv hpart)

theorem SecondsFit.field {fields : List (Text × Json)} (h : SecondsFit (.object fields))
    {name : Text} {v : Json} (hv : field? name fields = some v) : SecondsFit v where
  timeout fields i hpart := h.timeout fields i (.field hv hpart)
  dwell fields i hpart := h.dwell fields i (.field hv hpart)

/-! ## Readings that fail -/

/-- A reading that fails with such a fault, if it fails. -/
def FailsWith {α : Type} (p : CatalogFault → Prop) (x : Except CatalogFault α) : Prop :=
  ∀ fault, x = .error fault → p fault

namespace FailsWith

variable {α β : Type} {p q : CatalogFault → Prop}

theorem ok (a : α) : FailsWith p (.ok a) :=
  nofun

theorem error {fault : CatalogFault} (h : p fault) :
    FailsWith p (.error fault : Except CatalogFault α) := by
  rintro _ ⟨⟩
  exact h

theorem mono {x : Except CatalogFault α} (h : FailsWith p x) (hpq : ∀ fault, p fault → q fault) :
    FailsWith q x :=
  fun fault hfault => hpq fault (h fault hfault)

theorem bind {x : Except CatalogFault α} {f : α → Except CatalogFault β} (hx : FailsWith p x)
    (hf : ∀ a, FailsWith p (f a)) : FailsWith p (x >>= f) := by
  cases x with
  | error fault => exact error (hx fault rfl)
  | ok a => exact hf a

theorem map {x : Except CatalogFault α} (f : α → β) (hx : FailsWith p x) :
    FailsWith p (x.map f) := by
  cases x with
  | error fault => exact error (hx fault rfl)
  | ok a => exact ok (f a)

end FailsWith

/-- A complaint about one of these places. -/
def ComplainsAt (places : Place → Prop) (fault : CatalogFault) : Prop :=
  ∃ place complaint, places place ∧ fault = .rejected (.malformed place complaint)

theorem ComplainsAt.mono {places places' : Place → Prop} {fault : CatalogFault}
    (h : ComplainsAt places fault) (hplaces : ∀ place, places place → places' place) :
    ComplainsAt places' fault := by
  obtain ⟨place, complaint, hplace, rfl⟩ := h
  exact ⟨place, complaint, hplaces place hplace, rfl⟩

theorem reject_complains {α : Type} (place : Place) (complaint : Complaint) :
    FailsWith (ComplainsAt (· = place)) (reject place complaint : Except CatalogFault α) :=
  .error ⟨place, complaint, rfl, rfl⟩

/-- A reading that rejects the catalog if it fails. -/
def OnlyRejects {α : Type} (x : Except CatalogFault α) : Prop :=
  ∀ fault, x = .error fault → ∃ e, fault = .rejected e

namespace OnlyRejects

variable {α : Type}

theorem ok (a : α) : OnlyRejects (.ok a) :=
  nofun

theorem rejected (e : CatalogError) :
    OnlyRejects (.error (.rejected e) : Except CatalogFault α) := by
  rintro _ ⟨⟩
  exact ⟨e, rfl⟩

end OnlyRejects

/-! ## Fields -/

section Fields

variable {place : Place} {fields : List (Text × Json)}

theorem requiredText_complains {name : String} :
    FailsWith (ComplainsAt (· = place)) (requiredText place fields name) := by
  unfold requiredText
  split
  · split
    · exact reject_complains _ _
    · exact .ok _
  · exact reject_complains _ _

theorem requiredOutput_complains :
    FailsWith (ComplainsAt (· = place)) (requiredOutput place fields) := by
  unfold requiredOutput
  refine requiredText_complains.bind fun output => ?_
  split
  · exact .ok _
  · exact reject_complains _ _

theorem optionalBool_complains {name : String} :
    FailsWith (ComplainsAt (· = place)) (optionalBool place fields name) := by
  unfold optionalBool
  split
  · exact .ok _
  · exact .ok _
  · exact reject_complains _ _

theorem ownFileOf_complains {ownFile : Option Bool} :
    FailsWith (ComplainsAt (· = place)) (ownFileOf place fields ownFile) := by
  cases ownFile with
  | none => exact optionalBool_complains
  | some b => exact .ok _

theorem optionalArguments_complains :
    FailsWith (ComplainsAt (· = place)) (optionalArguments place fields) := by
  unfold optionalArguments
  split
  · exact .ok _
  · exact .ok _
  · exact reject_complains _ _

theorem optionalTimeout_complains :
    FailsWith (ComplainsAt (· = place)) (optionalTimeout place fields) := by
  unfold optionalTimeout
  split
  · exact .ok _
  · exact .ok _
  · split
    · split
      · exact reject_complains _ _
      · exact .ok _
    · exact reject_complains _ _

theorem optionalDwell_complains :
    FailsWith (ComplainsAt (· = place)) (optionalDwell place fields) := by
  unfold optionalDwell
  split
  · exact .ok _
  · split
    · split
      · exact reject_complains _ _
      · exact .ok _
    · exact reject_complains _ _

theorem parseQuery_complains : FailsWith (ComplainsAt (· = place)) (parseQuery place fields) := by
  unfold parseQuery
  refine requiredText_complains.bind fun className => ?_
  refine requiredText_complains.bind fun namespaceName => ?_
  exact requiredOutput_complains.bind fun output => .ok _

end Fields

/-! ## Numbers of seconds -/

/-- A number of seconds as a value. -/
def Seconds.toJson : Seconds → Json
  | .integer i => .integer i
  | .number x => .number x

theorem Seconds.eq_toJson_of_ofJson? {v : Json} {t : Seconds} (h : ofJson? v = some t) :
    v = t.toJson := by
  cases v with
  | integer i =>
    cases h
    rfl
  | number x =>
    cases h
    rfl
  | _ => cases h

theorem field_eq_integer_of_optionalDwell {place : Place} {fields : List (Text × Json)} {i : Int}
    (h : optionalDwell place fields = .ok (.integer i)) :
    field? "dwell_seconds" fields = some (.integer i) := by
  unfold optionalDwell at h
  split at h
  · cases h
  · rename_i v hv
    split at h
    · rename_i ht
      split at h
      · cases h
      · cases h
        rw [hv, Seconds.eq_toJson_of_ofJson? ht, Seconds.toJson]
    · cases h

end Catalog

end Diagnostics
