import Diagnostics.Proofs.Disk.Extends

/-!
# Where a file can be written

A file can be written at a path if nothing stands there, or a file that takes octets
(`Disk.Takes`). Adding files changes nothing about that (`Disk.AddsFiles.takes_iff`): a look-up that
ends where a file was added ended at nothing before, and one that ends elsewhere ended there before.
-/

set_option autoImplicit false

namespace Diagnostics

open Disk

/-- A file can be written at a path: nothing stands there, or a file that takes octets. -/
inductive Disk.Takes (disk : Disk) (path : Path) : Prop
  | vacant {place : Location} : disk.locate ⟨true, true⟩ path = .ok (.vacant place) →
      Takes disk path
  | found {place : Location} {content : List UInt8} :
      disk.locate ⟨true, true⟩ path = .ok (.found place) →
      disk.top.at? place = some (.file content) → Takes disk path

/-- The place at which a look-up arrives. -/
def Arrival.place : Arrival → Location
  | .found place => place
  | .vacant place => place

/-- How far a walk got before something was put where it arrived. -/
def Progress.before (top : Node) : Progress → Progress
  | .arrived arrival => .arrived (arrivalAt top arrival.place)
  | .crossing directory target rest => .crossing directory target rest

section

variable {d d' : Disk} {path : Path} {directory place : Location} {intent : Intent}
  {names : List FileName}

namespace Disk.AddsFiles

/-- What stands in the end was there before, of the same kind, or is a file that was added. -/
theorem outlineAt_or (h : d.AddsFiles d') {node : Node} (hat : d'.top.at? place = some node) :
    d.top.outlineAt place = some node.outline ∨
      d.top.at? place = none ∧ ∃ content, node = .file content := by
  cases hbefore : d.top.at? place with
  | none => exact Or.inr ⟨rfl, h.added place node hbefore hat⟩
  | some old =>
    refine Or.inl ?_
    rw [← h.kept place (by rw [hbefore]; exact Option.some_ne_none _)]
    unfold Node.outlineAt
    rw [hat, Option.map_some]

theorem at?_eq_none (h : d.AddsFiles d') (hnone : d'.top.at? place = none) :
    d.top.at? place = none := by
  by_contra hsome
  exact h.at?_ne_none hsome hnone

/-- What is given under a condition is given if the condition holds. -/
theorem eq_of_ite_eq_ok {condition : Prop} [Decidable condition] {e : Errno} {given progress : Progress}
    (h : (if condition then .ok given else .error e) = Except.ok progress) :
    condition ∧ progress = given := by
  split at h
  · exact ⟨‹_›, (Except.ok.inj h).symm⟩
  · cases h

/-- A walk takes the same steps before files were added, up to where it arrives. -/
theorem advance_before (h : d.AddsFiles d') : ∀ {directory : Location} {progress : Progress},
    d.top.IsDirectoryAt directory → advance d'.top intent directory names = .ok progress →
      advance d.top intent directory names = .ok (progress.before d.top) := by
  induction names with
  | nil =>
    intro directory progress hdirectory hadvance
    cases hadvance
    obtain ⟨entries, hat⟩ := hdirectory
    unfold Progress.before Arrival.place
    dsimp only
    rw [arrivalAt_of_some hat]
    rfl
  | cons name rest ih =>
    intro directory progress hdirectory hadvance
    rw [advance_cons] at hadvance ⊢
    cases hturn : turn intent.create name rest with
    | refused e =>
      rw [hturn] at hadvance
      cases hadvance
    | stay =>
      rw [hturn] at hadvance
      exact ih hdirectory hadvance
    | up =>
      rw [hturn] at hadvance
      obtain ⟨entries, hat⟩ := hdirectory
      exact ih (exists_at?_dropLast hat) hadvance
    | look =>
      rw [hturn] at hadvance
      dsimp only at hadvance ⊢
      cases hnew : d'.top.at? (directory ++ [name]) with
      | none =>
        rw [hnew] at hadvance
        have hold := h.at?_eq_none hnew
        obtain ⟨hrest, rfl⟩ := eq_of_ite_eq_ok hadvance
        rw [hold]
        simp [hrest, Progress.before, Arrival.place, arrivalAt, hold]
      | some node =>
        rw [hnew] at hadvance
        rcases h.outlineAt_or hnew with hkept | ⟨hold, content, rfl⟩
        · -- What stands here stood here before.
          unfold Node.outlineAt at hkept
          obtain ⟨old, hold, houtline⟩ := Option.map_eq_some_iff.mp hkept
          rw [hold]
          rcases old with old | _ | target | entries
          all_goals rcases node with content | _ | other | others
          all_goals try cases houtline
          case directory.directory.refl => exact ih ⟨entries, hold⟩ hadvance
          case link.link.refl =>
            dsimp only at hadvance ⊢
            split at hadvance
            · rename_i hend
              cases hadvance
              rw [if_pos hend]
              simp [Progress.before, Arrival.place, arrivalAt, hold]
            · rename_i hgoes
              cases hadvance
              rw [if_neg hgoes]
              rfl
          all_goals
            obtain ⟨hrest, rfl⟩ := eq_of_ite_eq_ok hadvance
            simp [hrest, Progress.before, Arrival.place, arrivalAt, hold]
        · -- A file was added here, so the walk ends at it, and ended at nothing before.
          obtain ⟨hrest, rfl⟩ := eq_of_ite_eq_ok hadvance
          rw [hold]
          simp [hrest, Progress.before, Arrival.place, arrivalAt, hold]

theorem resolve_before (h : d.AddsFiles d') {links : Nat} {arrival : Arrival}
    (hdirectory : d.top.IsDirectoryAt directory)
    (hresolve : resolve d'.top intent links directory names = .ok arrival) :
    resolve d.top intent links directory names = .ok (arrivalAt d.top arrival.place) := by
  refine resolve_ok_induction
    (P := fun links directory names => d.top.IsDirectoryAt directory →
      resolve d.top intent links directory names = .ok (arrivalAt d.top arrival.place))
    (fun links directory names hadvance hdirectory =>
      resolve_of_arrived (h.advance_before hdirectory hadvance))
    (fun links directory names below target rest hadvance ih hdirectory => ?_) hresolve hdirectory
  have hbefore := h.advance_before hdirectory hadvance
  rw [resolve_of_crossing hbefore]
  exact ih (((advance_stands hdirectory hbefore).2 below target rest rfl).writtenStart target)

/-- Where a file could be written, one can be written still. -/
theorem takes (h : d.AddsFiles d') (hground : d.IsGrounded) (htakes : d.Takes path) :
    d'.Takes path := by
  cases htakes with
  | @found place content hlocate hat =>
    have hfile := h.kept place (by rw [hat]; exact Option.some_ne_none _)
    rw [outlineAt_eq_file_iff.mpr ⟨content, hat⟩] at hfile
    obtain ⟨later, hlater⟩ := outlineAt_eq_file_iff.mp hfile
    exact .found (h.locate hlocate) hlater
  | @vacant place hlocate =>
    obtain ⟨octets, hoctets, hne, hshort, hresolve⟩ := locate_eq_ok_iff.mp hlocate
    have hfree := isFree_of_resolve (hground.writtenStart octets) hresolve
    have hnone : d.top.at? place = none := by simpa using hfree.at?_append []
    have hlink : ∀ target, d'.top.at? place ≠ some (.link target) := by
      intro target htarget
      obtain ⟨content, hfile⟩ := h.added place _ hnone htarget
      cases hfile
    have harrival : d'.locate ⟨true, true⟩ path = .ok (arrivalAt d'.top place) := by
      refine locate_eq_ok_iff.mpr ⟨octets, hoctets, hne, hshort, ?_⟩
      rw [h.workingDirectory]
      exact resolve_of_vacant h.kept hlink hresolve
    unfold arrivalAt at harrival
    cases hat : d'.top.at? place with
    | none =>
      rw [hat] at harrival
      exact .vacant harrival
    | some node =>
      rw [hat] at harrival
      obtain ⟨content, rfl⟩ := h.added place node hnone hat
      exact .found harrival hat

/-- Where a look-up arrives after files were added, it arrived before. -/
theorem locate_before (h : d.AddsFiles d') (hground : d.IsGrounded) {arrival : Arrival}
    (hlocate : d'.locate intent path = .ok arrival) :
    d.locate intent path = .ok (arrivalAt d.top arrival.place) := by
  obtain ⟨octets, hoctets, hne, hshort, hresolve⟩ := locate_eq_ok_iff.mp hlocate
  rw [h.workingDirectory] at hresolve
  exact locate_eq_ok_iff.mpr ⟨octets, hoctets, hne, hshort,
    h.resolve_before (hground.writtenStart octets) hresolve⟩

/-- Where a file can be written, one could be written before. -/
theorem takes_before (h : d.AddsFiles d') (hground : d.IsGrounded) (htakes : d'.Takes path) :
    d.Takes path := by
  cases htakes with
  | @vacant place hlocate =>
    obtain ⟨octets, -, -, -, hresolve⟩ := locate_eq_ok_iff.mp hlocate
    have hfree := isFree_of_resolve ((h.isGrounded hground).writtenStart octets) hresolve
    have hnone : d'.top.at? place = none := by simpa using hfree.at?_append []
    have harrival := h.locate_before hground hlocate
    unfold Arrival.place arrivalAt at harrival
    rw [h.at?_eq_none hnone] at harrival
    exact .vacant harrival
  | @found place content hlocate hat =>
    have harrival := h.locate_before hground hlocate
    unfold Arrival.place at harrival
    rcases h.outlineAt_or hat with hkept | ⟨hold, -⟩
    · obtain ⟨old, hold⟩ := outlineAt_eq_file_iff.mp hkept
      rw [arrivalAt_of_some hold] at harrival
      exact .found harrival hold
    · unfold arrivalAt at harrival
      rw [hold] at harrival
      exact .vacant harrival

/-- **Adding files changes nothing about where a file can be written.** -/
theorem takes_iff (h : d.AddsFiles d') (hground : d.IsGrounded) : d'.Takes path ↔ d.Takes path :=
  ⟨h.takes_before hground, h.takes hground⟩

end Disk.AddsFiles

namespace Disk

/-! ## Opening and writing -/

/-- A file can be written at a path if one is there once it was opened. -/
theorem takes_iff_opened (hground : d.IsGrounded) :
    d.Takes path ↔ ∃ place d' content, d.openForWriting path = .ok (place, d') ∧
      d'.top.at? place = some (.file content) := by
  unfold openForWriting
  constructor
  · intro htakes
    cases htakes with
    | @vacant place hlocate =>
      obtain ⟨octets, -, -, -, hresolve⟩ := locate_eq_ok_iff.mp hlocate
      rw [hlocate]
      exact ⟨place, _, [], rfl,
        at?_of_isFree (isFree_of_resolve (hground.writtenStart octets) hresolve)⟩
    | @found place content hlocate hat =>
      have hkept := outlineAt_graft_file hat [] place
      rw [outlineAt_eq_file_iff.mpr ⟨content, hat⟩] at hkept
      obtain ⟨later, hlater⟩ := outlineAt_eq_file_iff.mp hkept
      rw [hlocate]
      unfold openArrival?
      dsimp only
      rw [hat]
      exact ⟨place, _, later, rfl, hlater⟩
  · rintro ⟨place, d', content, hopened, hat⟩
    cases hlocate : d.locate ⟨true, true⟩ path with
    | error e =>
      rw [hlocate] at hopened
      cases hopened
    | ok arrival =>
      rw [hlocate] at hopened
      cases arrival with
      | vacant free => exact .vacant hlocate
      | found there =>
        unfold openArrival? at hopened
        dsimp only at hopened
        rcases hthere : d.top.at? there with _ | (old | _ | _ | _)
        all_goals
          rw [hthere] at hopened
          cases hopened
        · exact .found hlocate hthere
        · -- A full device is opened as it is, and stays one.
          rw [hthere] at hat
          cases hat

/-- A file that was opened can be written if a file is there now. -/
theorem takes_iff_of_opened (hground : d.IsGrounded)
    (hopened : d.openForWriting path = .ok (place, d')) :
    d.Takes path ↔ d'.top.outlineAt place = some (.file []) := by
  rw [takes_iff_opened hground, outlineAt_eq_file_iff]
  constructor
  · rintro ⟨place', disk, content, hopened', hat⟩
    cases hopened.symm.trans hopened'
    exact ⟨content, hat⟩
  · rintro ⟨content, hat⟩
    exact ⟨place, d', content, hopened, hat⟩

theorem at?_ne_none_of_opened (hground : d.IsGrounded)
    (hopened : d.openForWriting path = .ok (place, d')) : d'.top.at? place ≠ none := by
  obtain ⟨-, -, hplace | hplace⟩ := openForWriting_found hground hopened
  all_goals
    rw [hplace]
    exact Option.some_ne_none _

/-- A file that can be written has no content when it was opened. -/
theorem at?_of_opened (hground : d.IsGrounded)
    (hopened : d.openForWriting path = .ok (place, d')) (htakes : d.Takes path) :
    d'.top.at? place = some (.file []) := by
  obtain ⟨-, -, hplace | hplace⟩ := openForWriting_found hground hopened
  · exact hplace
  · have hkind := (takes_iff_of_opened hground hopened).mp htakes
    unfold Node.outlineAt at hkind
    rw [hplace] at hkind
    cases hkind

/-- A write reaches a file, and nothing else. -/
theorem writeAt_taken_iff (d : Disk) (place : Location) (octets : List UInt8) :
    (d.writeAt place octets).1 = true ↔ d.top.outlineAt place = some (.file []) := by
  unfold writeAt Node.outlineAt
  rcases d.top.at? place with _ | (_ | _ | _ | _)
  all_goals simp [Node.outline]

/-- Octets that were kept back reach a file, and nothing else. -/
theorem flushAt_taken_iff {octets : List UInt8} (hoctets : octets ≠ []) :
    (d.flushAt place octets).1 = true ↔ ∃ content, d.top.at? place = some (.file content) := by
  unfold flushAt
  rw [if_neg (by simpa using hoctets), writeAt_taken_iff, outlineAt_eq_file_iff]

/-- A full device takes nothing but nothing. -/
theorem flushAt_full (hfull : d.top.at? place = some .full) (octets : List UInt8) :
    (d.flushAt place octets).1 = octets.isEmpty := by
  unfold flushAt writeAt
  rw [hfull]
  cases octets <;> rfl

end Disk

end

end Diagnostics
