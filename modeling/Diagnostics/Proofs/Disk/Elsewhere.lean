import Diagnostics.Proofs.Disk.Takes

/-!
# Files that a program writes itself

A program writes the files that its arguments name, one after another, and a file that none of them
names stays as it is (`Disk.view_writeArguments`). Whether an argument names it is asked of the disk
before the first write. That is enough: a write adds a file at most, so what can be opened at a
place later could be opened there before (`Disk.AddsFiles.opens_before`).
-/

set_option autoImplicit false

namespace Diagnostics

open Disk

/-- What is opened by a path is at this place. -/
def Disk.Opens (disk : Disk) (path : Path) (place : Location) : Prop :=
  ∃ opened, disk.openForWriting path = .ok (place, opened)

/-- One of the files that a program writes itself is at this place. -/
def Completion.Reaches (c : Completion) (argv : List Text) (disk : Disk) (place : Location) :
    Prop :=
  ∃ write ∈ c.writes, ∃ argument, argv[write.1]? = some argument ∧
    disk.Opens (Path.ofText argument) place

/-- What a file is seen as is the file. -/
theorem Node.at?_eq_file_iff_view {top : Node} {place : Location} {content : List UInt8} :
    top.at? place = some (.file content) ↔ top.view place = some (.file content) := by
  unfold view
  rcases top.at? place with _ | (_ | _ | _ | _)
  all_goals simp [bare]

namespace Disk

variable {d d' : Disk} {path : Path} {place seen : Location}

/-- A path opens a place where nothing stands yet, or a file or a full device. -/
theorem opens_iff : d.Opens path place ↔
    d.locate ⟨true, true⟩ path = .ok (.vacant place) ∨
      d.locate ⟨true, true⟩ path = .ok (.found place) ∧
        (d.top.outlineAt place = some (.file []) ∨ d.top.outlineAt place = some .full) := by
  unfold Opens openForWriting
  cases hlocate : d.locate ⟨true, true⟩ path with
  | error e => simp
  | ok arrival =>
    cases arrival with
    | vacant free => simp [openArrival?]
    | found there =>
      have hthere : (there = place ∧
          (d.top.outlineAt place = some (.file []) ∨ d.top.outlineAt place = some .full)) ↔
          there = place ∧
            (d.top.outlineAt there = some (.file []) ∨ d.top.outlineAt there = some .full) :=
        and_congr_right fun h => by rw [h]
      simp only [Except.ok.injEq, Arrival.found.injEq, reduceCtorEq, false_or, hthere]
      unfold openArrival? Node.outlineAt
      rcases hat : d.top.at? there with _ | (_ | _ | _ | _)
      all_goals simp [hat, Node.outline]

/-- What can be opened after files were added could be opened before. -/
theorem AddsFiles.opens_before (h : d.AddsFiles d') (hground : d.IsGrounded)
    (hopens : d'.Opens path place) : d.Opens path place := by
  rw [opens_iff] at hopens ⊢
  rcases hopens with hlocate | ⟨hlocate, hkind⟩
  · obtain ⟨octets, -, -, -, hresolve⟩ := locate_eq_ok_iff.mp hlocate
    have hfree := isFree_of_resolve ((h.isGrounded hground).writtenStart octets) hresolve
    have hnone : d'.top.at? place = none := by simpa using hfree.at?_append []
    have hbefore := h.locate_before hground hlocate
    unfold Arrival.place arrivalAt at hbefore
    rw [h.at?_eq_none hnone] at hbefore
    exact Or.inl hbefore
  · have hbefore := h.locate_before hground hlocate
    unfold Arrival.place arrivalAt at hbefore
    dsimp only at hbefore
    cases hold : d.top.at? place with
    | none =>
      rw [hold] at hbefore
      exact Or.inl hbefore
    | some old =>
      rw [hold] at hbefore
      refine Or.inr ⟨hbefore, ?_⟩
      rwa [← h.kept place (by rw [hold]; exact Option.some_ne_none _)]

theorem view_openForWriting (hground : d.IsGrounded)
    (h : d.openForWriting path = .ok (place, d')) (hsome : d.top.at? seen ≠ none)
    (hne : seen ≠ place) : d'.top.view seen = d.top.view seen := by
  unfold openForWriting at h
  cases hlocate : d.locate ⟨true, true⟩ path with
  | error e =>
    rw [hlocate] at h
    cases h
  | ok arrival =>
    rw [hlocate] at h
    cases arrival with
    | vacant free =>
      cases h
      obtain ⟨octets, -, -, -, hresolve⟩ := locate_eq_ok_iff.mp hlocate
      exact view_of_isFree (isFree_of_resolve (hground.writtenStart octets) hresolve) hsome
    | found there =>
      unfold openArrival? at h
      dsimp only at h
      rcases hat : d.top.at? there with _ | (content | _ | _ | _)
      all_goals
        rw [hat] at h
        cases h
      · exact view_graft_file hat [] hne
      · rfl

theorem view_writeAt (d : Disk) (hne : seen ≠ place) (octets : List UInt8) :
    (d.writeAt place octets).2.top.view seen = d.top.view seen := by
  unfold writeAt
  rcases hat : d.top.at? place with _ | (content | _ | _ | _)
  case some.file => exact view_graft_file hat _ hne
  all_goals rfl

theorem view_flushAt (d : Disk) (hne : seen ≠ place) (octets : List UInt8) :
    (d.flushAt place octets).2.top.view seen = d.top.view seen := by
  unfold flushAt
  split
  · rfl
  · exact view_writeAt d hne octets

theorem view_overwrite (hground : d.IsGrounded) (hsome : d.top.at? seen ≠ none)
    (hnot : ¬ d.Opens path seen) (octets : List UInt8) :
    (d.overwrite path octets).2.top.view seen = d.top.view seen := by
  unfold overwrite
  cases hopened : d.openForWriting path with
  | error e => rfl
  | ok opened =>
    obtain ⟨place, disk⟩ := opened
    have hne : seen ≠ place := by
      rintro rfl
      exact hnot ⟨disk, hopened⟩
    exact (view_flushAt disk hne octets).trans (view_openForWriting hground hopened hsome hne)

/-- **What no argument names stays as it is** when a program writes the files that its arguments
name. -/
theorem view_writeArguments {base : Disk} (hground : base.IsGrounded) {argv : List Text}
    (hsome : base.top.at? seen ≠ none) {writes : List (Nat × List UInt8)}
    (hnot : ∀ write ∈ writes, ∀ argument, argv[write.1]? = some argument →
      ¬ base.Opens (Path.ofText argument) seen) :
    ∀ {d : Disk}, base.AddsFiles d →
      (writeArguments argv writes d).2.top.view seen = d.top.view seen := by
  induction writes with
  | nil => exact fun _ => rfl
  | cons write writes ih =>
    intro d hadds
    obtain ⟨index, octets⟩ := write
    obtain ⟨hfirst, hothers⟩ := List.forall_mem_cons.mp hnot
    unfold writeArguments
    cases hargument : argv[index]? with
    | none => exact ih hothers hadds
    | some argument =>
      have hgrounded := hadds.isGrounded hground
      have hspared : ¬ d.Opens (Path.ofText argument) seen :=
        fun hopens => hfirst argument hargument (hadds.opens_before hground hopens)
      have hmore := addsFiles_overwrite hgrounded (Path.ofText argument) octets
      exact (ih hothers (hadds.trans hmore)).trans
        (view_overwrite hgrounded (hadds.at?_ne_none hsome) hspared octets)

/-- A file that a program does not write itself stays as it is. -/
theorem at?_writeArguments_of_not_reaches (hground : d.IsGrounded) {c : Completion}
    {argv : List Text} (hnot : ¬ c.Reaches argv d place) {content : List UInt8}
    (hat : d.top.at? place = some (.file content)) :
    (writeArguments argv c.writes d).2.top.at? place = some (.file content) := by
  have hview := view_writeArguments hground (by rw [hat]; exact Option.some_ne_none _)
    (fun write hwrite argument hargument hopens =>
      hnot ⟨write, hwrite, argument, hargument, hopens⟩) (.refl d)
  rw [Node.at?_eq_file_iff_view, hview]
  exact Node.at?_eq_file_iff_view.mp hat

end Disk

end Diagnostics
