import Diagnostics.Proofs.Disk.Prepared

/-!
# What making directories changes

Making a directory, and all that are missing above it, adds empty directories where nothing stood,
and each of them is one that the path leads to or leads through (`made_of_ensureDirectories`).
Nothing else is added, and nothing is changed or removed, also if the request is refused half-way. A
path that led somewhere before leads there still, which is why the additions of several requests add
up.
-/

set_option autoImplicit false

namespace Diagnostics

open Disk

/-- A path leads through the directories on the way to its end, and to that one. -/
def Path.LeadsThrough (path above : Path) : Prop :=
  above.root = path.root ∧ above.parts <+: path.parts

namespace Disk

/-- From one disk to another, directories were made where nothing stood, one of these paths leads to
each of them, and nothing else happened. -/
structure Made (paths : Path → Prop) (d d' : Disk) : Prop where
  workingDirectory : d'.workingDirectory = d.workingDirectory
  unlistable : d'.unlistable = d.unlistable
  kept : ∀ place, d.top.at? place ≠ none → d'.top.view place = d.top.view place
  made : ∀ place, d.top.at? place = none → d'.top.at? place ≠ none →
    d'.top.view place = some (.directory []) ∧
      ∃ path, paths path ∧ d'.locate ⟨true, false⟩ path = .ok (.found place)

variable {paths : Path → Prop} {d d' d'' : Disk} {path : Path} {place : Location}

/-- A path that leads somewhere leads there as long as what stands is kept. -/
theorem locate_of_kept {intent : Intent} (hworking : d'.workingDirectory = d.workingDirectory)
    (hkept : ∀ seen, d.top.at? seen ≠ none → d'.top.view seen = d.top.view seen)
    (h : d.locate intent path = .ok (.found place)) :
    d'.locate intent path = .ok (.found place) := by
  obtain ⟨octets, hoctets, hne, hshort, hresolve⟩ := locate_eq_ok_iff.mp h
  refine locate_eq_ok_iff.mpr ⟨octets, hoctets, hne, hshort, ?_⟩
  rw [hworking, resolve_congr _ _ _ _ fun seen hseen =>
    hkept seen (at?_ne_none_of_resolve hresolve seen hseen)]
  exact hresolve

namespace Made

theorem refl (paths : Path → Prop) (d : Disk) : Made paths d d :=
  ⟨rfl, rfl, fun _ _ => rfl, fun _ hnone hsome => absurd hnone hsome⟩

theorem mono {paths' : Path → Prop} (h : Made paths d d')
    (hpaths : ∀ path, paths path → paths' path) :
    Made paths' d d' where
  workingDirectory := h.workingDirectory
  unlistable := h.unlistable
  kept := h.kept
  made place hnone hsome := by
    obtain ⟨hview, path, hpath, hlocate⟩ := h.made place hnone hsome
    exact ⟨hview, path, hpaths path hpath, hlocate⟩

/-- What stands stays. -/
theorem at?_ne_none (h : Made paths d d') (hplace : d.top.at? place ≠ none) :
    d'.top.at? place ≠ none := by
  rw [Ne, Node.at?_eq_none_iff_view, h.kept place hplace, ← Node.at?_eq_none_iff_view]
  exact hplace

theorem isGrounded (h : Made paths d d') (hground : d.IsGrounded) : d'.IsGrounded := by
  unfold IsGrounded
  rw [h.workingDirectory]
  exact isDirectoryAt_of_view hground (h.kept _ hground.at?_ne_none)

theorem trans (h : Made paths d d') (h' : Made paths d' d'') : Made paths d d'' where
  workingDirectory := h'.workingDirectory.trans h.workingDirectory
  unlistable := h'.unlistable.trans h.unlistable
  kept place hplace := (h'.kept place (h.at?_ne_none hplace)).trans (h.kept place hplace)
  made place hnone hsome := by
    by_cases hbetween : d'.top.at? place = none
    · exact h'.made place hbetween hsome
    · obtain ⟨hview, path, hpath, hlocate⟩ := h.made place hnone hbetween
      exact ⟨(h'.kept place hbetween).trans hview, path, hpath,
        locate_of_kept h'.workingDirectory h'.kept hlocate⟩

end Made

theorem made_of_makeDirectory (hground : d.IsGrounded) (h : d.makeDirectory path = .ok d') :
    Made (· = path) d d' := by
  obtain ⟨place, hfree, rfl, hlocate⟩ := makeDirectory_ok hground h
  refine ⟨rfl, rfl, fun seen hseen => view_of_isFree hfree hseen, fun seen hnone hsome => ?_⟩
  -- Elsewhere nothing stands where nothing stood, and below the new directory nothing stands.
  obtain rfl : place = seen := by
    by_contra hne
    by_cases hprefix : place <+: seen
    · obtain ⟨rest, rfl⟩ := hprefix
      obtain ⟨name, rest, rfl⟩ :=
        List.exists_cons_of_ne_nil fun hrest : rest = [] => hne (by rw [hrest, List.append_nil])
      exact hsome (at?_append_of_isFree hfree (name :: rest))
    · refine hsome (Node.at?_eq_none_iff_view _ |>.mpr ?_)
      exact (view_of_not_below hfree hprefix).trans (Node.at?_eq_none_iff_view _ |>.mp hnone)
  refine ⟨?_, path, rfl, hlocate⟩
  unfold Node.view
  rw [show (d.put place (.directory [])).top.at? place = some (.directory []) from
    at?_of_isFree hfree]
  rfl

theorem made_of_ensureDirectory (hground : d.IsGrounded) (h : d.ensureDirectory path = .ok d') :
    Made (· = path) d d' := by
  rcases ensureDirectory_ok h with hmade | ⟨rfl, -⟩
  · exact made_of_makeDirectory hground hmade
  · exact .refl _ _

theorem isDirectory_of_ensureDirectory (hground : d.IsGrounded)
    (h : d.ensureDirectory path = .ok d') : d'.isDirectory path = true := by
  rcases ensureDirectory_ok h with hmade | ⟨rfl, hthere⟩
  · obtain ⟨place, hfree, rfl, hlocate⟩ := makeDirectory_ok hground hmade
    exact isDirectory_iff.mpr ⟨place, hlocate, [], at?_of_isFree hfree⟩
  · exact hthere

theorem made_of_ensureParts (root : Root) : ∀ (parts : List Text) {d d' : Disk}
    {outcome : Except DiskError Unit}, d.IsGrounded → ensureParts root parts d = (outcome, d') →
      Made (fun above => above.root = root ∧ above.parts <+: parts.reverse) d d'
  | [], d, d', outcome, hground, h => by
    unfold ensureParts at h
    cases hmade : d.ensureDirectory ⟨root, []⟩ with
    | error e =>
      rw [hmade] at h
      cases h
      exact .refl _ _
    | ok made =>
      rw [hmade] at h
      cases h
      refine (made_of_ensureDirectory hground hmade).mono ?_
      rintro path rfl
      exact ⟨rfl, List.prefix_rfl⟩
  | part :: above, d, d', outcome, hground, h => by
    -- The last request is for the whole path; before it come, if at all, those for what is above.
    have hlast : ∀ {d d' : Disk}, d.IsGrounded →
        d.ensureDirectory ⟨root, (part :: above).reverse⟩ = .ok d' →
          Made (fun path => path.root = root ∧ path.parts <+: (part :: above).reverse) d d' := by
      intro d d' hground hmade
      refine (made_of_ensureDirectory hground hmade).mono ?_
      rintro path rfl
      exact ⟨rfl, List.prefix_rfl⟩
    unfold ensureParts at h
    dsimp only at h
    cases hmade : d.ensureDirectory ⟨root, (part :: above).reverse⟩ with
    | ok made =>
      rw [hmade] at h
      cases h
      exact hlast hground hmade
    | error e =>
      rw [hmade] at h
      dsimp only at h
      split at h
      · cases hrest : ensureParts root above d with
        | mk outcome left =>
          have habove : Made (fun path => path.root = root ∧
              path.parts <+: (part :: above).reverse) d left := by
            refine (made_of_ensureParts root above hground hrest).mono ?_
            rintro path ⟨hroot, hparts⟩
            rw [List.reverse_cons]
            exact ⟨hroot, hparts.trans (List.prefix_append _ _)⟩
          rw [hrest] at h
          cases outcome with
          | error e =>
            cases h
            exact habove
          | ok _ =>
            dsimp only at h
            cases hagain : left.ensureDirectory ⟨root, (part :: above).reverse⟩ with
            | error e =>
              rw [hagain] at h
              cases h
              exact habove
            | ok made =>
              rw [hagain] at h
              cases h
              exact habove.trans (hlast (habove.isGrounded hground) hagain)
      · cases h
        exact .refl _ _

/-- **Making a directory and those above it.** Whatever becomes of the request, it adds empty
directories that the path leads to or leads through, and does nothing else. -/
theorem made_of_ensureDirectories (hground : d.IsGrounded) (path : Path) :
    Made path.LeadsThrough d (d.ensureDirectories path).2 := by
  have hmade := made_of_ensureParts path.root path.parts.reverse hground
    (show d.ensureDirectories path = _ from rfl)
  rw [List.reverse_reverse] at hmade
  exact hmade

theorem isDirectory_of_ensureParts (root : Root) : ∀ (parts : List Text) {d d' : Disk},
    d.IsGrounded → ensureParts root parts d = (.ok (), d') →
      d'.isDirectory ⟨root, parts.reverse⟩ = true
  | [], d, d', hground, h => by
    unfold ensureParts at h
    split at h
    · rename_i hmade
      cases h
      exact isDirectory_of_ensureDirectory hground hmade
    · cases h
  | part :: above, d, d', hground, h => by
    unfold ensureParts at h
    dsimp only at h
    split at h
    · rename_i hmade
      cases h
      exact isDirectory_of_ensureDirectory hground hmade
    · split at h
      · split at h
        · cases h
        · rename_i hrest
          have hleft := (made_of_ensureParts root above hground hrest).isGrounded hground
          split at h
          · rename_i hagain
            cases h
            exact isDirectory_of_ensureDirectory hleft hagain
          · cases h
      · cases h

/-- What was asked for is a directory then. -/
theorem isDirectory_of_ensureDirectories (hground : d.IsGrounded)
    (h : d.ensureDirectories path = (.ok (), d')) : d'.isDirectory path = true := by
  have hthere := isDirectory_of_ensureParts path.root path.parts.reverse hground h
  rw [List.reverse_reverse] at hthere
  exact hthere

end Disk

end Diagnostics
