import Diagnostics.Proofs.Catalog.Unique
import Diagnostics.Proofs.Disk.Extends
import Diagnostics.Proofs.Json.Edit

/-!
# Catalogs without their trace groups

A group of a document is a trace group if its trace mark is set. Without these groups an accepted
document is accepted still, and what is read of it are the groups that are left
(`Catalog.parse_withoutTraces`): each group is read by itself, and what is left has its names once
if the whole has.
-/

set_option autoImplicit false

namespace Diagnostics

namespace Catalog

open Json (field?)

/-- Whether a value of the `groups` array has the trace mark. -/
def isTrace : Json → Bool
  | .object fields =>
    match field? "trace" fields with
    | some (.bool b) => b
    | _ => false
  | _ => false

/-- An array without the trace groups in it. -/
def untraced : Json → Json
  | .array vs => .array (vs.filter (!isTrace ·))
  | v => v

def untracedField : Text × Json → Text × Json
  | (name, v) => (name, if name = "groups" then untraced v else v)

/-- A document without its trace groups. -/
def withoutTraces : Json → Json
  | .object fields => .object (fields.map untracedField)
  | document => document

theorem field?_groups_untraced (fields : List (Text × Json)) :
    field? "groups" (fields.map untracedField) = (field? "groups" fields).map untraced :=
  Json.field?_changeField_self untraced

/-- The mark in a document is the mark of the group that is read. -/
theorem isTrace_eq {bounds : Bounds} {v : Json} {group : Group}
    (h : IsObject (DescribesGroup bounds) v group) : isTrace v = group.trace := by
  obtain ⟨fields, rfl, hgroup⟩ := h
  have htrace := hgroup.trace
  unfold isTrace
  dsimp only
  cases hfield : field? "trace" fields with
  | none =>
    rw [hfield] at htrace
    exact (optionalField_none.mp htrace).symm
  | some v =>
    rw [hfield] at htrace
    obtain rfl := optionalField_some.mp htrace
    rfl

/-- **An accepted document is accepted without its trace groups**, and read as the other groups. -/
theorem parse_withoutTraces {document : Json} {groups : List Group}
    (h : parse document = .ok groups) :
    parse (withoutTraces document) = .ok (groups.filter (!·.trace)) := by
  obtain ⟨⟨fields, rfl, hgroups⟩, hunique⟩ := parse_ok_iff.mp h
  obtain ⟨vs, hvs, hread⟩ := requiredField_isArray_iff.mp hgroups
  refine parse_ok_iff.mpr ⟨⟨_, rfl, requiredField_isArray_iff.mpr ⟨vs.filter (!isTrace ·), ?_, ?_⟩⟩,
    ?_⟩
  · rw [field?_groups_untraced, hvs]
    rfl
  · refine List.rel_filter (fun v group hgroup => ?_) hread
    dsimp only
    rw [isTrace_eq hgroup]
  · obtain ⟨hnames, houtputs, halone⟩ := checkUnique_ok_iff.mp hunique
    have hsublist : (groups.filter (!·.trace)).Sublist groups := List.filter_sublist
    exact checkUnique_ok_iff.mpr ⟨hnames.sublist (hsublist.map Group.name),
      houtputs.sublist (hsublist.flatMap Group.outputs),
      fun group hgroup => halone group (hsublist.mem hgroup)⟩

/-! ## Files with a catalog -/

/-- Octets are a text of a document. -/
def ReadsAs (octets : List UInt8) (document : Json) : Prop :=
  ∃ cs, Text.Utf8.decode octets = .ok cs ∧ Json.read (Text.unifyNewlines cs) = .ok document

theorem ReadsAs.ofOctets_eq {octets : List UInt8} {document : Json} (h : ReadsAs octets document)
    (path : Path) : ofOctets path octets = parse document := by
  obtain ⟨cs, hdecode, hread⟩ := h
  unfold ofOctets
  rw [hdecode]
  dsimp only
  rw [hread]

end Catalog

/-- A path leads to a file that holds a text of a document. -/
structure Disk.HasCatalog (disk : Disk) (path : Path) (place : Location) (document : Json) :
    Prop where
  located : disk.locate ⟨true, false⟩ path = .ok (.found place)
  holds : ∃ octets, disk.top.at? place = some (.file octets) ∧ Catalog.ReadsAs octets document

namespace Disk.HasCatalog

variable {disk : Disk} {path : Path} {place : Location} {document : Json}

theorem load_eq (h : disk.HasCatalog path place document) :
    Catalog.load disk path = Catalog.parse document := by
  obtain ⟨octets, hat, hreads⟩ := h.holds
  unfold Catalog.load
  rw [read_of_locate h.located hat]
  exact hreads.ofOctets_eq path

/-- Another text in the file is another catalog. -/
theorem put (h : disk.HasCatalog path place document) {octets : List UInt8} {other : Json}
    (hreads : Catalog.ReadsAs octets other) :
    (disk.put place (.file octets)).HasCatalog path place other := by
  obtain ⟨old, hat, -⟩ := h.holds
  exact ⟨(addsFiles_put_file hat octets).locate h.located, octets, Node.at?_graft_self hat _,
    hreads⟩

end Disk.HasCatalog

end Diagnostics
