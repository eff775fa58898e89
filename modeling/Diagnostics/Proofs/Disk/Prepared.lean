import Diagnostics.Proofs.Disk.Vacant
import Diagnostics.Proofs.TextOrder

/-!
# Making the staging directory

A run asks for its staging directory before anything else. If the directory is there and empty, it
stays so; and if there is none, the directory that is made is empty and is what the path leads to.
The second holds for paths without a double dot only: on the way to `new/..` the request makes
`new`, and then the path leads to the directory around it, whatever that holds.
-/

set_option autoImplicit false

namespace Diagnostics

open Disk

/-! ## Making directories -/

namespace Disk

/-- The working directory is there. -/
def IsGrounded (disk : Disk) : Prop :=
  disk.top.IsDirectoryAt disk.workingDirectory

/-- Names of a path that mean neither the directory that they are in nor the one above. -/
def IsPlain (part : Text) : Prop :=
  IsOneName part ∧ ∀ name, Text.Utf8.encodeName part = .ok name → name ≠ dot ∧ name ≠ dotDot

variable {disk disk' : Disk} {path above : Path} {part : Text} {home : Location}

theorem isDirectory_iff :
    disk.isDirectory path = true ↔
      ∃ place, disk.locate ⟨true, false⟩ path = .ok (.found place) ∧
        disk.top.IsDirectoryAt place := by
  unfold isDirectory node?
  cases disk.locate ⟨true, false⟩ path with
  | error e => simp
  | ok arrival =>
    cases arrival with
    | vacant place => simp
    | found place =>
      dsimp only
      constructor
      · intro h
        refine ⟨place, rfl, ?_⟩
        cases hat : disk.top.at? place with
        | none =>
          rw [hat] at h
          cases h
        | some node =>
          rw [hat] at h
          cases node with
          | directory entries => exact ⟨entries, hat⟩
          | _ => cases h
      · rintro ⟨other, heq, entries, hat⟩
        cases heq
        rw [hat]
        rfl

/-- A directory is made at a free place, and the path leads to it. -/
theorem makeDirectory_ok (hground : disk.IsGrounded) (h : disk.makeDirectory path = .ok disk') :
    ∃ place, disk.top.IsFree place ∧ disk' = disk.put place (.directory []) ∧
      disk'.locate ⟨true, false⟩ path = .ok (.found place) := by
  unfold makeDirectory at h
  cases hlocate : disk.locate ⟨false, false⟩ path with
  | error e =>
    rw [hlocate] at h
    cases h
  | ok arrival =>
    rw [hlocate] at h
    cases arrival with
    | found place => cases h
    | vacant place =>
      cases h
      obtain ⟨octets, hoctets, hne, hshort, hresolve⟩ := locate_eq_ok_iff.mp hlocate
      have hfree : disk.top.IsFree place :=
        isFree_of_resolve (hground.writtenStart octets) hresolve
      -- The request does not follow a link at the end and a later look-up does, but the end is at
      -- nothing.
      have hfollow : resolve disk.top ⟨true, false⟩ linkLimit
          (writtenStart disk.workingDirectory octets) (writtenNames octets) =
            .ok (.vacant place) := by
        rcases @resolve_intent disk.top linkLimit (writtenStart disk.workingDirectory octets)
          (writtenNames octets) with heq | ⟨other, hfound⟩
        · rw [← heq]
          exact hresolve
        · rw [hresolve] at hfound
          cases hfound
      exact ⟨place, hfree, rfl, locate_eq_ok_iff.mpr ⟨octets, hoctets, hne, hshort,
        resolve_graft_of_vacant hfree rfl hfollow⟩⟩

/-- A directory that is made is empty, and the path leads to it. -/
theorem emptyAt_of_makeDirectory (hground : disk.IsGrounded)
    (h : disk.makeDirectory path = .ok disk') :
    (∃ home, disk'.EmptyAt path home) ∧ disk'.IsGrounded := by
  obtain ⟨place, hfree, rfl, hlocate⟩ := makeDirectory_ok hground h
  refine ⟨⟨place, hlocate, at?_of_isFree hfree⟩, ?_⟩
  exact isDirectoryAt_of_view hground (view_of_isFree hfree hground.at?_ne_none)

/-- A directory that is asked for is made, or is there, and then nothing is done. -/
theorem ensureDirectory_ok (h : disk.ensureDirectory path = .ok disk') :
    disk.makeDirectory path = .ok disk' ∨ disk' = disk ∧ disk.isDirectory path = true := by
  unfold ensureDirectory at h
  unfold isDirectory
  cases hmade : disk.makeDirectory path with
  | ok made =>
    rw [hmade] at h
    exact Or.inl h
  | error e =>
    rw [hmade] at h
    -- A refusal is passed over only if a directory is found there.
    cases e with
    | unencodable error => cases h
    | embeddedNul => cases h
    | os fault =>
      dsimp only at h
      split at h
      · cases h
      · cases hnode : disk.node? true path with
        | error f =>
          rw [hnode] at h
          dsimp only at h
          split at h <;> cases h
        | ok node =>
          rw [hnode] at h
          dsimp only at h ⊢
          split at h
          · cases h
            exact Or.inr ⟨rfl, ‹_›⟩
          · cases h

/-- A directory that is not there and is asked for is made. -/
theorem emptyAt_of_ensureDirectory (hground : disk.IsGrounded)
    (habsent : disk.isDirectory path = false) (h : disk.ensureDirectory path = .ok disk') :
    (∃ home, disk'.EmptyAt path home) ∧ disk'.IsGrounded := by
  rcases ensureDirectory_ok h with hmade | ⟨-, hthere⟩
  · exact emptyAt_of_makeDirectory hground hmade
  · rw [habsent] at hthere
    cases hthere

/-- A refusal for want of a directory is one of making the directory itself. -/
theorem makeDirectory_of_ensureDirectory_noEntry
    (h : disk.ensureDirectory path = .error (refusal .noEntry path)) :
    disk.makeDirectory path = .error (refusal .noEntry path) := by
  unfold ensureDirectory at h
  cases hmade : disk.makeDirectory path with
  | ok made =>
    rw [hmade] at h
    cases h
  | error e =>
    rw [hmade] at h
    cases e with
    | unencodable error => cases h
    | embeddedNul => cases h
    | os fault =>
      dsimp only at h
      split at h
      · rename_i heq
        rw [heq]
      · cases hnode : disk.node? true path with
        | error f =>
          rw [hnode] at h
          dsimp only at h
          split at h
          · rename_i hlong
            rw [hlong] at h
            cases h
          · exact h
        | ok node =>
          rw [hnode] at h
          dsimp only at h
          split at h
          · cases h
          · exact h

/-- The look-up of a single name is never refused for want of a directory. -/
theorem resolve_singleton_ne_noEntry {top : Node} {links : Nat} {directory : Location}
    {name : FileName} :
    resolve top ⟨false, false⟩ links directory [name] ≠ .error .noEntry := by
  unfold resolve
  rw [advance_cons]
  dsimp only
  intro h
  cases hturn : turn false name [] with
  | refused e =>
    rw [hturn] at h
    cases h
    rcases eq_of_turn_eq_refused hturn with heq | heq
    · cases heq
    · cases heq
  | stay =>
    rw [hturn] at h
    cases h
  | up =>
    rw [hturn] at h
    cases h
  | look =>
    rw [hturn] at h
    dsimp only at h
    rcases hat : top.at? (directory ++ [name]) with _ | (_ | _ | _ | _)
    all_goals
      rw [hat] at h
      cases h

/-- In a directory, a name can be asked for. -/
theorem makeDirectory_child_ne_noEntry (hone : IsOneName part)
    (h : disk.isDirectory above = true) :
    disk.makeDirectory (above.child part) ≠ .error (refusal .noEntry (above.child part)) := by
  obtain ⟨place, hlocate, entries, hat⟩ := isDirectory_iff.mp h
  intro hmade
  have hrefused : disk.locate ⟨false, false⟩ (above.child part) =
      .error (refusal .noEntry (above.child part)) := by
    unfold makeDirectory at hmade
    cases hchild : disk.locate ⟨false, false⟩ (above.child part) with
    | error e =>
      rw [hchild] at hmade
      exact congrArg Except.error (Except.error.inj hmade)
    | ok arrival =>
      rw [hchild] at hmade
      cases arrival <;> cases hmade
  rcases locate_child_cases hone above with
    ⟨e, he, hall⟩ | ⟨octets, name, hoctets, hne, hshort, hname⟩
  · exact he (Except.error.inj ((hall _ _).symm.trans hrefused))
  · -- The look-up gets to the directory, and from there on no directory can be missing.
    obtain ⟨left, hleft⟩ := locate_child hone hoctets hne hshort hname hlocate hat ⟨false, false⟩
    rw [hrefused] at hleft
    cases hlast : resolve disk.top ⟨false, false⟩ left place [name] with
    | ok arrival =>
      rw [hlast] at hleft
      cases hleft
    | error e =>
      rw [hlast] at hleft
      cases hleft
      exact resolve_singleton_ne_noEntry hlast

/-- In an empty directory there is no other. -/
theorem isDirectory_child_eq_false (hplain : IsPlain part) (h : disk.EmptyAt above home) :
    disk.isDirectory (above.child part) = false := by
  rw [Bool.eq_false_iff]
  intro hthere
  obtain ⟨place, hlocate, -⟩ := isDirectory_iff.mp hthere
  rcases locate_child_cases hplain.1 above with
    ⟨e, -, hall⟩ | ⟨octets, name, hoctets, hne, hshort, hname⟩
  · rw [hall] at hlocate
    cases hlocate
  · obtain ⟨left, hleft⟩ :=
      locate_child hplain.1 hoctets hne hshort hname h.located h.empty ⟨true, false⟩
    obtain ⟨hdot, hdotDot⟩ := hplain.2 name hname
    have hnone : disk.top.at? (home ++ [name]) = none := by
      rw [Node.at?_append, h.empty, Option.bind_some, Node.at?_cons]
      rfl
    rw [hlocate] at hleft
    unfold resolve at hleft
    rw [advance_cons] at hleft
    dsimp only at hleft
    cases hturn : turn false name [] with
    | stay => exact (eq_of_turn_eq_stay hturn).elim (hplain.1.octets hname).1 hdot
    | up => exact hdotDot (eq_of_turn_eq_up hturn)
    | refused e =>
      rw [hturn] at hleft
      cases hleft
    | look =>
      rw [hturn] at hleft
      dsimp only at hleft
      rw [hnone] at hleft
      cases hleft

/-- Making a directory and those above it, if it is not there. -/
theorem emptyAt_of_ensureParts (root : Root) : ∀ (parts : List Text) {disk disk' : Disk},
    (∀ part ∈ parts, IsPlain part) → disk.IsGrounded →
      disk.isDirectory ⟨root, parts.reverse⟩ = false →
        ensureParts root parts disk = (.ok (), disk') →
          (∃ home, disk'.EmptyAt ⟨root, parts.reverse⟩ home) ∧ disk'.IsGrounded
  | [], disk, disk', _, hground, habsent, h => by
    unfold ensureParts at h
    cases hmade : disk.ensureDirectory ⟨root, []⟩ with
    | error e =>
      rw [hmade] at h
      cases h
    | ok made =>
      rw [hmade] at h
      cases h
      exact emptyAt_of_ensureDirectory hground habsent hmade
  | part :: above, disk, disk', hplain, hground, habsent, h => by
    have hpath : (⟨root, (part :: above).reverse⟩ : Path) =
        (⟨root, above.reverse⟩ : Path).child part := by
      rw [List.reverse_cons]
      rfl
    unfold ensureParts at h
    dsimp only at h
    rw [hpath] at h habsent ⊢
    cases hmade : disk.ensureDirectory ((⟨root, above.reverse⟩ : Path).child part) with
    | ok made =>
      rw [hmade] at h
      cases h
      exact emptyAt_of_ensureDirectory hground habsent hmade
    | error e =>
      rw [hmade] at h
      dsimp only at h
      split at h
      · -- The directory above is missing as well, and once it is made it is empty.
        rename_i hmissing
        subst hmissing
        have habove : disk.isDirectory ⟨root, above.reverse⟩ = false :=
          Bool.eq_false_iff.mpr fun hthere =>
            makeDirectory_child_ne_noEntry (hplain part List.mem_cons_self).1 hthere
              (makeDirectory_of_ensureDirectory_noEntry hmade)
        cases hrest : ensureParts root above disk with
        | mk outcome left =>
          rw [hrest] at h
          cases outcome with
          | error e => cases h
          | ok _ =>
            obtain ⟨⟨home, hempty⟩, hground'⟩ := emptyAt_of_ensureParts root above
              (fun p hp => hplain p (List.mem_cons_of_mem _ hp)) hground habove hrest
            dsimp only at h
            cases hagain : left.ensureDirectory ((⟨root, above.reverse⟩ : Path).child part) with
            | error e =>
              rw [hagain] at h
              cases h
            | ok made =>
              rw [hagain] at h
              cases h
              exact emptyAt_of_ensureDirectory hground'
                (isDirectory_child_eq_false (hplain part List.mem_cons_self) hempty) hagain
      · cases h

/-- A directory that is there and is asked for stays as it is. -/
theorem ensureDirectories_of_located (hlocated : disk.locate ⟨true, false⟩ path = .ok (.found home))
    (hhome : disk.top.IsDirectoryAt home) : disk.ensureDirectories path = (.ok (), disk) := by
  obtain ⟨entries, hat⟩ := hhome
  have hthere : ∃ place, disk.locate ⟨false, false⟩ path = .ok (.found place) := by
    obtain ⟨octets, hoctets, hne, hshort, hresolve⟩ := locate_eq_ok_iff.mp hlocated
    rcases @resolve_intent disk.top linkLimit (writtenStart disk.workingDirectory octets)
      (writtenNames octets) with heq | ⟨place, hfound⟩
    · exact ⟨home, locate_eq_ok_iff.mpr ⟨octets, hoctets, hne, hshort, heq.trans hresolve⟩⟩
    · exact ⟨place, locate_eq_ok_iff.mpr ⟨octets, hoctets, hne, hshort, hfound⟩⟩
  have hmade : disk.ensureDirectory path = .ok disk := by
    obtain ⟨place, hplace⟩ := hthere
    have hexists : refusal .fileExists path ≠ refusal .noEntry path := fun h => nomatch h
    have hnode : disk.node? true path = .ok (.directory entries) := by
      unfold node?
      rw [hlocated]
      dsimp only
      rw [hat]
    unfold ensureDirectory makeDirectory
    rw [hplace, hnode]
    show (if refusal .fileExists path = refusal .noEntry path then _ else _) = _
    rw [if_neg hexists]
    rfl
  obtain ⟨root, parts⟩ := path
  unfold ensureDirectories
  cases hparts : parts.reverse with
  | nil =>
    obtain rfl := List.reverse_eq_nil_iff.mp hparts
    unfold ensureParts
    rw [hmade]
  | cons part above =>
    have hback : (part :: above).reverse = parts := by rw [← hparts, List.reverse_reverse]
    unfold ensureParts
    dsimp only
    rw [hback, hmade]

/-- An empty directory that is asked for stays as it is. -/
theorem ensureDirectories_of_emptyAt {staging : Path} (h : disk.EmptyAt staging home) :
    disk.ensureDirectories staging = (.ok (), disk) :=
  ensureDirectories_of_located h.located ⟨[], h.empty⟩

end Disk

/-- The parts of a path are plain, but for double dots. -/
theorem isPlain_of_mem_parts {written part : Text} (h : part ∈ (Path.ofText written).parts)
    (hdots : part ≠ "..") : IsPlain part := by
  have hmem := List.mem_filter.mp h
  obtain ⟨hne, hdot⟩ : part ≠ "" ∧ part ≠ "." := by simpa [Path.isPart] using hmem.2
  have hascii : ∀ {name : FileName} {s : Text}, Text.Utf8.encodeName part = .ok name →
      (∀ b ∈ name, b.toNat < 0x80) → s.map CodePoint.value = name.map UInt8.toNat → part = s := by
    intro name s hname hlow hs
    have hvalues := Text.Utf8.map_value_of_ascii hlow (Text.Utf8.encodeName_eq_ok_iff.mp hname).2
    exact (List.map_inj_right fun _ _ => CodePoint.value_inj).mp (hvalues.trans hs.symm)
  refine ⟨⟨hne, Text.forall_of_mem_splitAtEach part hmem.1⟩, fun name hname => ⟨?_, ?_⟩⟩
  · rintro rfl
    exact hdot (hascii hname (by simp [dot]) rfl)
  · rintro rfl
    exact hdots (hascii hname (by simp [dotDot]) rfl)

/-- **Asking for the staging directory.** If there is no directory, or an empty one, where a path
without double dots leads, then once the request is granted there is an empty one. -/
theorem Disk.emptyAt_of_ensureDirectories {disk disk' : Disk} {written : Text}
    (hground : disk.IsGrounded) (hdots : (".." : Text) ∉ (Path.ofText written).parts)
    (hbefore : disk.isDirectory (Path.ofText written) = false ∨
      ∃ home, disk.EmptyAt (Path.ofText written) home)
    (h : disk.ensureDirectories (Path.ofText written) = (.ok (), disk')) :
    ∃ home, disk'.EmptyAt (Path.ofText written) home := by
  rcases hbefore with habsent | ⟨home, hempty⟩
  · have hback : (⟨(Path.ofText written).root, (Path.ofText written).parts.reverse.reverse⟩ : Path) =
        Path.ofText written := by rw [List.reverse_reverse]
    rw [← hback] at habsent ⊢
    refine (emptyAt_of_ensureParts _ _ (fun part hpart => ?_) hground habsent h).1
    have hmem : part ∈ (Path.ofText written).parts := List.mem_reverse.mp hpart
    exact isPlain_of_mem_parts hmem fun heq => hdots (heq ▸ hmem)
  · rw [ensureDirectories_of_emptyAt hempty] at h
    cases h
    exact ⟨home, hempty⟩

end Diagnostics
