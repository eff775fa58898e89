import Diagnostics.Proofs.Disk.Artifact

/-!
# The staging directory during a run

The disk of a run is the disk that it began with, except for the entries of the staging directory,
which was empty then and holds files only since. `Disk.withEntries` is that disk. On such disks
the requests of a run are requests about the entries: an artifact is opened by putting an empty
file under its name, written to by putting another file there, and what is read at its path is what
the file under its name holds.
-/

set_option autoImplicit false

namespace Diagnostics

open Disk

/-- The disk on which the directory at a place has other entries. -/
def Disk.withEntries (disk : Disk) (home : Location) (entries : List (FileName × Node)) : Disk :=
  { disk with top := disk.top.withEntries home entries }

/-- A path leads to a directory without entries. -/
structure Disk.EmptyAt (disk : Disk) (path : Path) (home : Location) : Prop where
  located : disk.locate ⟨true, false⟩ path = .ok (.found home)
  empty : disk.top.at? home = some (.directory [])

def OnlyFiles (entries : List (FileName × Node)) : Prop :=
  ∀ name node, Node.entry? name entries = some node → ∃ content, node = .file content

theorem onlyFiles_nil : OnlyFiles [] :=
  fun _ _ h => nomatch h

theorem OnlyFiles.setEntry {entries : List (FileName × Node)} (h : OnlyFiles entries)
    (name : FileName) (content : List UInt8) :
    OnlyFiles (Node.setEntry name (.file content) entries) := by
  intro other node hnode
  by_cases hother : other = name
  · rw [hother, Node.entry?_setEntry_self] at hnode
    exact ⟨content, (Option.some.inj hnode).symm⟩
  · rw [Node.entry?_setEntry_of_ne hother] at hnode
    exact h other node hnode

section

variable {disk : Disk} {staging : Path} {home : Location} {entries : List (FileName × Node)}
  {name : FileName}

theorem Disk.EmptyAt.withEntries_nil (h : disk.EmptyAt staging home) :
    disk.withEntries home [] = disk := by
  unfold Disk.withEntries
  rw [Node.withEntries_self h.empty]

theorem Disk.EmptyAt.at?_entry (h : disk.EmptyAt staging home) :
    (disk.withEntries home entries).top.at? (home ++ [name]) = Node.entry? name entries := by
  show (disk.top.withEntries home entries).at? (home ++ [name]) = _
  rw [Node.at?_withEntries h.empty, Node.at?_cons]
  cases Node.entry? name entries with
  | none => rfl
  | some node => exact Node.at?_nil node

/-- What is put into the directory is one of its entries. -/
theorem Disk.EmptyAt.put_entry (h : disk.EmptyAt staging home) (node : Node) :
    (disk.withEntries home entries).put (home ++ [name]) node =
      disk.withEntries home (Node.setEntry name node entries) := by
  unfold Disk.put Disk.withEntries
  dsimp only
  rw [Node.graft_withEntries h.empty]

/-- Nothing else than a file can be opened, and a directory is none. -/
theorem openArrival?_directory {place : Location} {others : List (FileName × Node)}
    (h : disk.top.at? place = some (.directory others)) :
    disk.openArrival? (.found place) = none := by
  unfold openArrival?
  dsimp only
  rw [h]

/-- What a directory is in is a directory. -/
theorem exists_at?_dropLast {top : Node} {place : Location} {others : List (FileName × Node)}
    (h : top.at? place = some (.directory others)) :
    ∃ others', top.at? place.dropLast = some (.directory others') := by
  rcases List.eq_nil_or_concat place with rfl | ⟨front, last, rfl⟩
  · exact ⟨others, h⟩
  · rw [List.concat_eq_append] at h ⊢
    rw [List.dropLast_concat]
    exact Node.exists_directory_of_at? h

/-- A name that means a directory leads to one. -/
theorem resolve_of_stay_or_up (h : disk.EmptyAt staging home) (intent : Intent) (links : Nat)
    (hturn : turn intent.create name [] = .stay ∨ turn intent.create name [] = .up) :
    ∃ place others, resolve (disk.withEntries home entries).top intent links home [name] =
        .ok (.found place) ∧
      (disk.withEntries home entries).top.at? place = some (.directory others) := by
  have hhome : (disk.withEntries home entries).top.at? home = some (.directory entries) :=
    Node.at?_withEntries_self h.empty
  unfold resolve
  rw [advance_cons]
  rcases hturn with hturn | hturn
  · rw [hturn]
    exact ⟨home, entries, rfl, hhome⟩
  · rw [hturn]
    obtain ⟨others, habove⟩ := exists_at?_dropLast hhome
    exact ⟨home.dropLast, others, rfl, habove⟩

/-- Any other name that is not refused leads to its entry, which is a file, or to where there is
none yet. -/
theorem resolve_of_look (h : disk.EmptyAt staging home) (hfiles : OnlyFiles entries)
    (intent : Intent) (links : Nat) (hturn : turn intent.create name [] = .look) :
    resolve (disk.withEntries home entries).top intent links home [name] =
      .ok (if (Node.entry? name entries).isSome then .found (home ++ [name])
        else .vacant (home ++ [name])) := by
  unfold resolve
  rw [advance_cons, hturn]
  dsimp only
  rw [h.at?_entry]
  cases hentry : Node.entry? name entries with
  | none => rfl
  | some node =>
    obtain ⟨content, rfl⟩ := hfiles name node hentry
    rfl

/-- A name that leads to an entry becomes an empty file, be it new or one of the entries. -/
theorem openArrival?_of_look (h : disk.EmptyAt staging home) (hfiles : OnlyFiles entries) :
    (disk.withEntries home entries).openArrival?
        (if (Node.entry? name entries).isSome then .found (home ++ [name])
          else .vacant (home ++ [name])) =
      some (home ++ [name], disk.withEntries home (Node.setEntry name (.file []) entries)) := by
  unfold openArrival?
  cases hentry : Node.entry? name entries with
  | none =>
    show some (home ++ [name], (disk.withEntries home entries).put _ _) = _
    rw [h.put_entry]
  | some node =>
    obtain ⟨content, rfl⟩ := hfiles name node hentry
    rw [Option.isSome_some, if_pos rfl]
    dsimp only
    rw [h.at?_entry, hentry]
    dsimp only
    rw [h.put_entry]

/-- A path that leads somewhere leads there whatever the directory's entries are. -/
theorem Disk.EmptyAt.locate_withEntries (h : disk.EmptyAt staging home) {intent : Intent}
    {path : Path} {place : Location} (hlocate : disk.locate intent path = .ok (.found place))
    (entries : List (FileName × Node)) :
    (disk.withEntries home entries).locate intent path = .ok (.found place) := by
  obtain ⟨octets, hoctets, hne, hshort, hresolve⟩ := locate_eq_ok_iff.mp hlocate
  exact locate_eq_ok_iff.mpr
    ⟨octets, hoctets, hne, hshort, resolve_withEntries_of_found h.empty hresolve⟩

/-- The path leads to the directory whatever its entries are. -/
theorem Disk.EmptyAt.located_withEntries (h : disk.EmptyAt staging home)
    (entries : List (FileName × Node)) :
    (disk.withEntries home entries).locate ⟨true, false⟩ staging = .ok (.found home) :=
  h.locate_withEntries h.located entries

/-- On each disk of a run the look-up of an artifact arrives at the directory, and what is left to
be looked up is the artifact's name. -/
theorem exists_openForWriting_eq (h : disk.EmptyAt staging home) {output : Text}
    {octets : List UInt8} (hone : IsOneName output)
    (hoctets : Disk.pathOctets (staging.child output).text = .ok octets) (hne : octets ≠ [])
    (hshort : ¬ pathLimit ≤ octets.length) (hname : Text.Utf8.encodeName output = .ok name)
    (entries : List (FileName × Node)) :
    ∃ left, (disk.withEntries home entries).openForWriting (staging.child output) =
      match resolve (disk.withEntries home entries).top ⟨true, true⟩ left home [name] with
      | .error e => .error (refusal e (staging.child output))
      | .ok arrival =>
        match (disk.withEntries home entries).openArrival? arrival with
        | some opened => .ok opened
        | none => .error (refusal .isDirectory (staging.child output)) := by
  have hhome : (disk.withEntries home entries).top.at? home = some (.directory entries) :=
    Node.at?_withEntries_self h.empty
  obtain ⟨left, hleft⟩ := locate_child hone hoctets hne hshort hname
    (h.located_withEntries entries) hhome ⟨true, true⟩
  refine ⟨left, ?_⟩
  unfold openForWriting
  rw [hleft]
  cases resolve (disk.withEntries home entries).top ⟨true, true⟩ left home [name] <;> rfl

/-- **Opening an artifact.** On every disk of a run an artifact is refused in one way, or on every
one of them it becomes an empty file of one name. -/
theorem openForWriting_artifact (h : disk.EmptyAt staging home) {output : Text}
    (hbare : IsBareName output) :
    (∃ e, ∀ entries, OnlyFiles entries →
      (disk.withEntries home entries).openForWriting (staging.join output) = .error e) ∨
    ∃ name, Text.Utf8.encodeName output = .ok name ∧ ∀ entries, OnlyFiles entries →
      (disk.withEntries home entries).openForWriting (staging.join output) =
        .ok (home ++ [name],
          disk.withEntries home (Node.setEntry name (.file []) entries)) := by
  rw [hbare.join_eq_child]
  rcases locate_child_cases hbare.isOneName staging with
    ⟨e, -, hrefused⟩ | ⟨octets, name, hoctets, hne, hshort, hname⟩
  · refine Or.inl ⟨e, fun entries _ => ?_⟩
    unfold openForWriting
    rw [hrefused]
  · -- What becomes of the last name depends on the name alone, since all entries are files.
    have hopen := exists_openForWriting_eq h hbare.isOneName hoctets hne hshort hname
    have hmove : turn true name [] = .stay ∨ turn true name [] = .up →
        ∃ e, ∀ entries, OnlyFiles entries →
          (disk.withEntries home entries).openForWriting (staging.child output) = .error e := by
      refine fun hturn => ⟨refusal .isDirectory (staging.child output), fun entries _ => ?_⟩
      obtain ⟨left, hleft⟩ := hopen entries
      obtain ⟨place, others, hat, hdirectory⟩ :=
        @resolve_of_stay_or_up _ _ _ entries _ h ⟨true, true⟩ left hturn
      rw [hleft, hat]
      dsimp only
      rw [openArrival?_directory hdirectory]
    cases hturn : turn true name [] with
    | stay => exact Or.inl (hmove (Or.inl hturn))
    | up => exact Or.inl (hmove (Or.inr hturn))
    | refused e =>
      refine Or.inl ⟨refusal e (staging.child output), fun entries _ => ?_⟩
      obtain ⟨left, hleft⟩ := hopen entries
      rw [hleft]
      unfold resolve
      rw [advance_cons]
      dsimp only
      rw [hturn]
    | look =>
      refine Or.inr ⟨name, hname, fun entries hfiles => ?_⟩
      obtain ⟨left, hleft⟩ := hopen entries
      rw [hleft, resolve_of_look h hfiles ⟨true, true⟩ left hturn]
      dsimp only
      rw [openArrival?_of_look h hfiles]

/-- **Reading an artifact.** On every disk of a run an artifact is refused in one way, or it is read
as the entry of one name. -/
theorem read_artifact (h : disk.EmptyAt staging home) {output : Text} (hbare : IsBareName output) :
    (∃ e, ∀ entries, OnlyFiles entries →
      (disk.withEntries home entries).read (staging.join output) = .error e) ∨
    ∃ name, Text.Utf8.encodeName output = .ok name ∧ ∀ entries, OnlyFiles entries →
      (∀ content, Node.entry? name entries = some (.file content) →
        (disk.withEntries home entries).read (staging.join output) = .ok content) ∧
      (Node.entry? name entries = none → (disk.withEntries home entries).read
        (staging.join output) = .error (refusal .noEntry (staging.join output))) := by
  rw [hbare.join_eq_child]
  rcases locate_child_cases hbare.isOneName staging with
    ⟨e, -, hrefused⟩ | ⟨octets, name, hoctets, hne, hshort, hname⟩
  · refine Or.inl ⟨e, fun entries _ => ?_⟩
    unfold Disk.read node?
    rw [hrefused]
  · -- As for opening, what becomes of the last name depends on the name alone.
    have hlocate := fun entries : List (FileName × Node) =>
      locate_child hbare.isOneName hoctets hne hshort hname (h.located_withEntries entries)
        (Node.at?_withEntries_self h.empty) ⟨true, false⟩
    have hmove : turn false name [] = .stay ∨ turn false name [] = .up →
        ∃ e, ∀ entries, OnlyFiles entries →
          (disk.withEntries home entries).read (staging.child output) = .error e := by
      refine fun hturn => ⟨refusal .isDirectory (staging.child output), fun entries _ => ?_⟩
      obtain ⟨left, hleft⟩ := hlocate entries
      obtain ⟨place, others, hat, hdirectory⟩ :=
        @resolve_of_stay_or_up _ _ _ entries _ h ⟨true, false⟩ left hturn
      unfold Disk.read node?
      rw [hleft, hat]
      dsimp only
      rw [hdirectory]
    cases hturn : turn false name [] with
    | stay => exact Or.inl (hmove (Or.inl hturn))
    | up => exact Or.inl (hmove (Or.inr hturn))
    | refused e =>
      refine Or.inl ⟨refusal e (staging.child output), fun entries _ => ?_⟩
      obtain ⟨left, hleft⟩ := hlocate entries
      unfold Disk.read node?
      rw [hleft]
      unfold resolve
      rw [advance_cons]
      dsimp only
      rw [hturn]
    | look =>
      refine Or.inr ⟨name, hname, fun entries hfiles => ?_⟩
      obtain ⟨left, hleft⟩ := hlocate entries
      unfold Disk.read node?
      rw [hleft, resolve_of_look h hfiles ⟨true, false⟩ left hturn]
      constructor
      · intro content hentry
        rw [hentry, Option.isSome_some, if_pos rfl]
        dsimp only
        rw [h.at?_entry, hentry]
      · intro hentry
        rw [hentry]
        rfl

/-! ## Writing to an artifact -/

/-- Writing to an artifact puts another file in its place, if there is one. -/
theorem writeAt_entry (h : disk.EmptyAt staging home) (octets : List UInt8) :
    (disk.withEntries home entries).writeAt (home ++ [name]) octets =
      match Node.entry? name entries with
      | some (.file content) =>
        (true, disk.withEntries home
          (Node.setEntry name (.file (octets ++ content.drop octets.length)) entries))
      | _ => (false, disk.withEntries home entries) := by
  unfold writeAt
  rw [h.at?_entry]
  cases Node.entry? name entries with
  | none => rfl
  | some node =>
    cases node with
    | file content =>
      dsimp only
      rw [h.put_entry]
    | _ => rfl

/-- What is written to an empty file on closing it becomes its content. -/
theorem flushAt_entry (h : disk.EmptyAt staging home)
    (hentry : Node.entry? name entries = some (.file [])) (octets : List UInt8) :
    (disk.withEntries home entries).flushAt (home ++ [name]) octets =
      (true, disk.withEntries home (Node.setEntry name (.file octets) entries)) := by
  unfold flushAt
  split
  · rename_i hempty
    rw [List.isEmpty_iff.mp hempty, Node.setEntry_self hentry]
  · rw [writeAt_entry h, hentry]
    dsimp only
    rw [List.drop_nil, List.append_nil]

end

end Diagnostics
