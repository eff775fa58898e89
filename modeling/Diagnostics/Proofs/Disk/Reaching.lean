import Diagnostics.Proofs.Disk.Artifact
import Diagnostics.Proofs.Machine

/-!
# Paths that reach the operating system

A request about a path that has no octets fails before the operating system hears of it, and then
nothing is done (`Disk.ensureDirectories_of_not_hasOctets`). Of a path that has octets every refusal
is one of the operating system (`Disk.os_of_ensureDirectories`, `Disk.os_of_openForWriting`).

Whether a path has octets is a matter of the code points of its parts (`Path.hasOctets_iff`), so if
a path has octets, those that it leads through have them too, and so has each entry with a name of
the kind.
-/

set_option autoImplicit false

namespace Diagnostics

open Disk

/-- Whether a code point can stand in the path of a request. -/
def CodePoint.inPath (c : CodePoint) : Bool :=
  Text.Utf8.isNameEncodable c && c.value ≠ 0

/-- A path reaches the operating system. -/
def Path.HasOctets (path : Path) : Prop :=
  ∃ octets, pathOctets path.text = .ok octets

/-! ## The octets of a path -/

theorem Text.forall_mem_join {P : CodePoint → Prop} {separator : Text}
    (hseparator : ∀ c ∈ separator, P c) (parts : List Text) :
    (∀ c ∈ join separator parts, P c) ↔ ∀ part ∈ parts, ∀ c ∈ part, P c := by
  unfold join
  induction parts with
  | nil => simp [List.intercalate]
  | cons first parts ih =>
    cases parts with
    | nil => simp [List.intercalate]
    | cons second parts =>
      rw [List.intercalate_cons_cons, List.forall_mem_append, List.forall_mem_append, ih,
        List.forall_mem_cons (a := first)]
      exact ⟨fun h => ⟨h.1.1, h.2⟩, fun h => ⟨⟨h.1, hseparator⟩, h.2⟩⟩

/-- The octet of U+0000 is that of no other code point. -/
theorem Text.Utf8.zero_mem_nameOctetsOf_iff {c : CodePoint} :
    (0 : UInt8) ∈ nameOctetsOf c ↔ c.value = 0 := by
  constructor
  · exact fun h => eq_of_mem_nameOctetsOf (by decide) h
  · intro h
    simp [nameOctetsOf, standsForOctet, octetsOf, h]

theorem Disk.exists_pathOctets_iff {written : Text} :
    (∃ octets, pathOctets written = .ok octets) ↔ ∀ c ∈ written, c.inPath = true := by
  have hzero : ∀ octets, written.flatMap Text.Utf8.nameOctetsOf = octets →
      (octets.contains 0 = false ↔ ∀ c ∈ written, c.value ≠ 0) := by
    rintro octets rfl
    rw [← Bool.not_eq_true, List.contains_iff_mem, List.mem_flatMap]
    simp [Text.Utf8.zero_mem_nameOctetsOf_iff]
  constructor
  · rintro ⟨octets, hoctets⟩ c hc
    obtain ⟨hencode, hnone⟩ := pathOctets_eq_ok_iff.mp hoctets
    obtain ⟨hall, hflat⟩ := Text.Utf8.encodeName_eq_ok_iff.mp hencode
    simpa [CodePoint.inPath] using ⟨hall c hc, (hzero _ hflat).mp hnone c hc⟩
  · intro hall
    simp only [CodePoint.inPath, Bool.and_eq_true, decide_eq_true_eq] at hall
    refine ⟨_, pathOctets_eq_ok_iff.mpr ⟨Text.Utf8.encodeName_eq_ok_iff.mpr
      ⟨fun c hc => (hall c hc).1, rfl⟩, ?_⟩⟩
    exact (hzero _ rfl).mpr fun c hc => (hall c hc).2

/-- A path has octets if each of its parts could be the name of a file. -/
theorem Path.hasOctets_iff {path : Path} :
    path.HasOctets ↔ ∀ part ∈ path.parts, ∀ c ∈ part, c.inPath = true := by
  have hslash : ∀ c ∈ ("/" : Text), c.inPath = true := by decide
  have hdot : ∀ c ∈ ("." : Text), c.inPath = true := by decide
  have hroot : ∀ root : Root, ∀ c ∈ (root.text : Text), c.inPath = true := by
    intro root
    cases root
    all_goals decide
  unfold HasOctets
  rw [exists_pathOctets_iff]
  unfold text
  split
  · rename_i hempty
    rw [hempty.2]
    exact ⟨fun _ _ hpart => absurd hpart List.not_mem_nil, fun _ => hdot⟩
  · rw [List.forall_mem_append, Text.forall_mem_join hslash]
    exact ⟨fun h => h.2, fun h => ⟨hroot path.root, h⟩⟩

/-- What a path with octets leads through has octets. -/
theorem Path.HasOctets.of_parts_subset {path above : Path} (h : path.HasOctets)
    (hparts : above.parts ⊆ path.parts) : above.HasOctets :=
  hasOctets_iff.mpr fun part hpart => hasOctets_iff.mp h part (hparts hpart)

theorem Path.HasOctets.child {path : Path} {name : Text} (h : path.HasOctets)
    (hname : ∀ c ∈ name, c.inPath = true) : (path.child name).HasOctets := by
  apply hasOctets_iff.mpr
  intro part hpart
  rcases List.mem_append.mp hpart with hpart | hpart
  · exact hasOctets_iff.mp h part hpart
  · rw [List.mem_singleton.mp hpart]
    exact hname

/-! ## Refusals -/

namespace Disk

variable {d d' : Disk} {path : Path} {e : DiskError}

/-- A path without octets is refused for that, whatever is asked of it. -/
theorem exists_locate_of_not_hasOctets (h : ¬ path.HasOctets) :
    ∃ e, (∀ fault, e ≠ .os fault) ∧
      ∀ (d : Disk) (intent : Intent), d.locate intent path = .error e := by
  cases hoctets : pathOctets path.text with
  | ok octets => exact absurd ⟨octets, hoctets⟩ h
  | error e =>
    refine ⟨e, fun fault => ?_, fun d intent => ?_⟩
    · rcases pathOctets_error_cases hoctets with ⟨error, rfl⟩ | rfl
      all_goals exact nofun
    · unfold locate locateText
      rw [hoctets]

theorem os_of_locate {intent : Intent} (hoctets : path.HasOctets)
    (h : d.locate intent path = .error e) : ∃ fault, e = .os fault := by
  obtain ⟨octets, hoctets⟩ := hoctets
  unfold locate locateText at h
  rw [hoctets] at h
  dsimp only at h
  split at h
  · cases h
    exact ⟨_, rfl⟩
  · split at h
    · cases h
      exact ⟨_, rfl⟩
    · split at h
      · cases h
      · cases h
        exact ⟨_, rfl⟩

theorem os_of_node? {follow : Bool} (hoctets : path.HasOctets)
    (h : d.node? follow path = .error e) : ∃ fault, e = .os fault := by
  unfold node? at h
  split at h
  · rename_i hlocate
    cases h
    exact os_of_locate hoctets hlocate
  · cases h
    exact ⟨_, rfl⟩
  · split at h
    · cases h
    · cases h
      exact ⟨_, rfl⟩

theorem os_of_read (hoctets : path.HasOctets) (h : d.read path = .error e) :
    ∃ fault, e = .os fault := by
  unfold Disk.read at h
  split at h
  · rename_i hnode
    cases h
    exact os_of_node? hoctets hnode
  · cases h
    exact ⟨_, rfl⟩
  · cases h
  · cases h

/-- A path without octets is not read, and it is not the operating system that refuses. -/
theorem exists_read_of_not_hasOctets (d : Disk) (h : ¬ path.HasOctets) :
    ∃ e, (∀ fault, e ≠ .os fault) ∧ d.read path = .error e := by
  obtain ⟨e, hnot, hlocate⟩ := exists_locate_of_not_hasOctets h
  refine ⟨e, hnot, ?_⟩
  unfold Disk.read node?
  rw [hlocate]

theorem os_of_makeDirectory (hoctets : path.HasOctets) (h : d.makeDirectory path = .error e) :
    ∃ fault, e = .os fault := by
  unfold makeDirectory at h
  split at h
  · rename_i hlocate
    cases h
    exact os_of_locate hoctets hlocate
  · cases h
    exact ⟨_, rfl⟩
  · cases h

theorem os_of_ensureDirectory (hoctets : path.HasOctets)
    (h : d.ensureDirectory path = .error e) : ∃ fault, e = .os fault := by
  unfold ensureDirectory at h
  cases hmade : d.makeDirectory path with
  | ok made =>
    rw [hmade] at h
    cases h
  | error refused =>
    rw [hmade] at h
    obtain ⟨fault, rfl⟩ := os_of_makeDirectory hoctets hmade
    dsimp only at h
    -- What is told is the refusal, or what was met when looking for a directory instead.
    split at h
    · cases h
      exact ⟨_, rfl⟩
    · split at h
      · split at h
        · cases h
        · cases h
          exact ⟨_, rfl⟩
      · rename_i hnode
        split at h
        · cases h
          exact os_of_node? hoctets hnode
        · cases h
          exact ⟨_, rfl⟩

theorem exists_ensureDirectory_of_not_hasOctets (h : ¬ path.HasOctets) (d : Disk) :
    ∃ e, (∀ fault, e ≠ .os fault) ∧ d.ensureDirectory path = .error e := by
  obtain ⟨e, hnot, hlocate⟩ := exists_locate_of_not_hasOctets h
  refine ⟨e, hnot, ?_⟩
  unfold ensureDirectory makeDirectory
  rw [hlocate]
  cases e with
  | os fault => exact absurd rfl (hnot fault)
  | unencodable error => rfl
  | embeddedNul => rfl

/-- Nothing is done about a path without octets. -/
theorem ensureDirectories_of_not_hasOctets (h : ¬ path.HasOctets) (d : Disk) :
    ∃ e, d.ensureDirectories path = (.error e, d) := by
  obtain ⟨e, hnot, hensure⟩ := exists_ensureDirectory_of_not_hasOctets h d
  have hother : e ≠ refusal .noEntry path := hnot _
  refine ⟨e, ?_⟩
  obtain ⟨root, parts⟩ := path
  unfold ensureDirectories
  cases hparts : parts.reverse with
  | nil =>
    obtain rfl := List.reverse_eq_nil_iff.mp hparts
    unfold ensureParts
    rw [hensure]
  | cons part above =>
    have hback : (part :: above).reverse = parts := by rw [← hparts, List.reverse_reverse]
    unfold ensureParts
    dsimp only
    rw [hback, hensure]
    dsimp only
    rw [if_neg hother]

theorem os_of_ensureParts (root : Root) : ∀ (parts : List Text) {d d' : Disk} {e : DiskError},
    (⟨root, parts.reverse⟩ : Path).HasOctets → ensureParts root parts d = (.error e, d') →
      ∃ fault, e = .os fault
  | [], d, d', e, hoctets, h => by
    unfold ensureParts at h
    split at h
    · cases h
    · rename_i hmade
      cases h
      exact os_of_ensureDirectory hoctets hmade
  | part :: above, d, d', e, hoctets, h => by
    have habove : (⟨root, above.reverse⟩ : Path).HasOctets :=
      hoctets.of_parts_subset (by simp)
    unfold ensureParts at h
    dsimp only at h
    split at h
    · cases h
    · rename_i hmade
      split at h
      · -- The directories above it are made first, and then it is asked for once more.
        split at h
        · rename_i hrest
          cases h
          exact os_of_ensureParts root above habove hrest
        · split at h
          · cases h
          · rename_i hagain
            cases h
            exact os_of_ensureDirectory hoctets hagain
      · cases h
        exact os_of_ensureDirectory hoctets hmade

/-- **Refused directories.** Either the operating system has refused one of them, or nothing was
done. -/
theorem os_of_ensureDirectories (h : d.ensureDirectories path = (.error e, d')) :
    (∃ fault, e = .os fault) ∨ d' = d := by
  by_cases hoctets : path.HasOctets
  · refine Or.inl (os_of_ensureParts path.root path.parts.reverse ?_ h)
    rw [List.reverse_reverse]
    exact hoctets
  · obtain ⟨e', hnothing⟩ := ensureDirectories_of_not_hasOctets hoctets d
    rw [hnothing] at h
    cases h
    exact Or.inr rfl

theorem hasOctets_of_ensureDirectories (h : d.ensureDirectories path = (.ok (), d')) :
    path.HasOctets := by
  by_contra hnone
  obtain ⟨e, hnothing⟩ := ensureDirectories_of_not_hasOctets hnone d
  rw [hnothing] at h
  cases h

theorem os_of_openForWriting (hoctets : path.HasOctets) (h : d.openForWriting path = .error e) :
    ∃ fault, e = .os fault := by
  unfold openForWriting at h
  split at h
  · rename_i hlocate
    cases h
    exact os_of_locate hoctets hlocate
  · split at h
    · cases h
    · cases h
      exact ⟨_, rfl⟩

end Disk

end Diagnostics
