import Diagnostics.Proofs.Disk.Staging

/-!
# Operations that keep to some of the files

Whoever works in the staging directory has files of its own there, known by their names. An
operation keeps to such files (`Disk.KeepsTo`) if its answer depends on them alone, and if what it
writes is one of them, with a content that depends on them alone. Such operations answer alike on
disks that agree on these files, the disks agree on them afterwards, and all other files stay what
they were.

The requests of a task are operations of this kind: opening an artifact, writing to one that is
open, and closing it.
-/

set_option autoImplicit false

namespace Diagnostics

namespace Disk

/-- A disk of a run: that of the beginning, with other files in the staging directory. -/
def Staged (base : Disk) (home : Location) (disk : Disk) : Prop :=
  ∃ entries, OnlyFiles entries ∧ disk = base.withEntries home entries

/-- On a disk of a run the same is seen everywhere as at the beginning, except that there are files
in the staging directory. -/
theorem Staged.view_eq_or_file {base disk : Disk} {staging : Path} {home : Location}
    (h : base.Staged home disk) (hempty : base.EmptyAt staging home) (place : Location) :
    disk.top.view place = base.top.view place ∨
      ∃ name content, place = home ++ [name] ∧ disk.top.at? place = some (.file content) ∧
        base.top.at? place = none := by
  obtain ⟨entries, hfiles, rfl⟩ := h
  by_cases hbelow : Node.Below home place
  · have hbefore : base.top.at? place = none := Node.at?_of_below hempty.empty hbelow
    have hnone : (base.withEntries home entries).top.at? place = none →
        (base.withEntries home entries).top.view place = base.top.view place := by
      intro hafter
      rw [(Node.at?_eq_none_iff_view place).mp hafter, (Node.at?_eq_none_iff_view place).mp hbefore]
    obtain ⟨rest, hrest, rfl⟩ := Node.exists_of_below hbelow
    obtain ⟨name, rest, rfl⟩ := List.exists_cons_of_ne_nil hrest
    have hat : (base.withEntries home entries).top.at? (home ++ name :: rest) =
        Option.bind (Node.entry? name entries) fun child => child.at? rest := by
      show (base.top.withEntries home entries).at? _ = _
      rw [Node.at?_withEntries hempty.empty, Node.at?_cons]
    cases hentry : Node.entry? name entries with
    | none =>
      refine Or.inl (hnone ?_)
      rw [hat, hentry]
      rfl
    | some node =>
      obtain ⟨content, rfl⟩ := hfiles name node hentry
      rw [hentry, Option.bind_some] at hat
      cases rest with
      | nil => exact Or.inr ⟨name, content, rfl, hat, hbefore⟩
      | cons _ _ => exact Or.inl (hnone hat)
  · exact Or.inl (Node.view_withEntries hempty.empty hbelow)

/-- The same stands under these names. -/
def AgreeOn (names : FileName → Prop) (home : Location) (d d' : Disk) : Prop :=
  ∀ name, names name → d.top.at? (home ++ [name]) = d'.top.at? (home ++ [name])

theorem AgreeOn.trans {names : FileName → Prop} {home : Location} {d d' d'' : Disk}
    (h : AgreeOn names home d d') (h' : AgreeOn names home d' d'') : AgreeOn names home d d'' :=
  fun name hname => (h name hname).trans (h' name hname)

theorem AgreeOn.mono {names names' : FileName → Prop} {home : Location} {d d' : Disk}
    (h : AgreeOn names home d d') (hnames : ∀ name, names' name → names name) :
    AgreeOn names' home d d' :=
  fun name hname => h name (hnames name hname)

/-- The entries after a file was written, if one was. -/
def writing : Option (FileName × List UInt8) → List (FileName × Node) → List (FileName × Node)
  | none, entries => entries
  | some (name, content), entries => Node.setEntry name (.file content) entries

/-- An operation depends on these files and writes none but these. -/
def KeepsTo {α : Type} (base : Disk) (home : Location) (names : FileName → Prop)
    (op : Disk → α × Disk) : Prop :=
  ∀ entries, OnlyFiles entries → ∃ (x : α) (change : Option (FileName × List UInt8)),
    (∀ written ∈ change, names written.1) ∧
      ∀ others, OnlyFiles others →
        (∀ name, names name → Node.entry? name others = Node.entry? name entries) →
          op (base.withEntries home others) = (x, base.withEntries home (writing change others))

/-- Opens a file for writing. A refusal changes nothing. -/
def opened (path : Path) (disk : Disk) : Except DiskError Location × Disk :=
  match disk.openForWriting path with
  | .ok (place, opened) => (.ok place, opened)
  | .error e => (.error e, disk)

end Disk

open Disk

theorem OnlyFiles.writing {entries : List (FileName × Node)} (h : OnlyFiles entries)
    (change : Option (FileName × List UInt8)) : OnlyFiles (writing change entries) := by
  cases change with
  | none => exact h
  | some written => exact h.setEntry written.1 written.2

/-- Under each name stands what was written there, or what stood there before. -/
theorem entry?_writing {name : FileName} {change : Option (FileName × List UInt8)}
    {entries others : List (FileName × Node)}
    (h : (∃ written ∈ change, written.1 = name) ∨
      Node.entry? name entries = Node.entry? name others) :
    Node.entry? name (writing change entries) = Node.entry? name (writing change others) := by
  cases change with
  | none =>
    rcases h with ⟨_, hnone, _⟩ | h
    · cases hnone
    · exact h
  | some written =>
    show Node.entry? name (Node.setEntry _ _ _) = Node.entry? name (Node.setEntry _ _ _)
    by_cases hname : name = written.1
    · rw [hname, Node.entry?_setEntry_self, Node.entry?_setEntry_self]
    · rw [Node.entry?_setEntry_of_ne hname, Node.entry?_setEntry_of_ne hname]
      rcases h with ⟨_, hsome, hwritten⟩ | h
      · cases hsome
        exact absurd hwritten.symm hname
      · exact h

theorem entry?_writing_of_not_mem {name : FileName} {change : Option (FileName × List UInt8)}
    {entries : List (FileName × Node)} (h : ∀ written ∈ change, written.1 ≠ name) :
    Node.entry? name (writing change entries) = Node.entry? name entries := by
  cases change with
  | none => rfl
  | some written => exact Node.entry?_setEntry_of_ne (Ne.symm (h written rfl)) _ _

namespace Disk.KeepsTo

variable {α : Type} {base d d' : Disk} {staging : Path} {home : Location}
  {names : FileName → Prop} {op : Disk → α × Disk}

/-- It leaves a disk of the run. -/
theorem staged (hop : base.KeepsTo home names op) (hd : base.Staged home d) :
    base.Staged home (op d).2 := by
  obtain ⟨entries, hfiles, rfl⟩ := hd
  obtain ⟨x, change, -, heq⟩ := hop entries hfiles
  rw [heq entries hfiles fun _ _ => rfl]
  exact ⟨writing change entries, hfiles.writing change, rfl⟩

/-- On disks that agree, it answers alike, and they agree afterwards. -/
theorem agree (hempty : base.EmptyAt staging home) (hop : base.KeepsTo home names op)
    (hd : base.Staged home d) (hd' : base.Staged home d') (h : AgreeOn names home d d') :
    (op d).1 = (op d').1 ∧ AgreeOn names home (op d).2 (op d').2 := by
  obtain ⟨entries, hfiles, rfl⟩ := hd
  obtain ⟨others, hothers, rfl⟩ := hd'
  have hsame : ∀ name, names name → Node.entry? name others = Node.entry? name entries := by
    intro name hname
    have hat := h name hname
    rw [hempty.at?_entry, hempty.at?_entry] at hat
    exact hat.symm
  obtain ⟨x, change, -, heq⟩ := hop entries hfiles
  rw [heq entries hfiles fun _ _ => rfl, heq others hothers hsame]
  refine ⟨rfl, fun name hname => ?_⟩
  rw [hempty.at?_entry, hempty.at?_entry]
  exact entry?_writing (Or.inr (hsame name hname).symm)

/-- All other files stay. -/
theorem spares (hempty : base.EmptyAt staging home) (hop : base.KeepsTo home names op)
    (hd : base.Staged home d) : AgreeOn (fun name => ¬ names name) home (op d).2 d := by
  obtain ⟨entries, hfiles, rfl⟩ := hd
  obtain ⟨x, change, hwritten, heq⟩ := hop entries hfiles
  rw [heq entries hfiles fun _ _ => rfl]
  intro name hname
  rw [hempty.at?_entry, hempty.at?_entry]
  exact entry?_writing_of_not_mem fun written hmem heq => hname (heq ▸ hwritten written hmem)

end Disk.KeepsTo

/-! ## The operations of tasks -/

section

variable {base : Disk} {staging : Path} {home : Location} {names : FileName → Prop}

theorem keepsTo_pure {α : Type} (x : α) : base.KeepsTo home names fun d => (x, d) :=
  fun _ _ => ⟨x, none, (fun _ hmem => nomatch hmem), fun _ _ _ => rfl⟩

theorem keepsTo_opened (hempty : base.EmptyAt staging home) {output : Text}
    (hbare : IsBareName output)
    (hnames : ∀ name, Text.Utf8.encodeName output = .ok name → names name) :
    base.KeepsTo home names (opened (staging.join output)) := by
  intro entries _
  unfold opened
  rcases openForWriting_artifact hempty hbare with ⟨e, hrefused⟩ | ⟨name, hname, hopened⟩
  · refine ⟨.error e, none, (fun _ hmem => nomatch hmem), fun others hothers _ => ?_⟩
    rw [hrefused others hothers]
    rfl
  · refine ⟨.ok (home ++ [name]), some (name, []), ?_, fun others hothers _ => ?_⟩
    · rintro written ⟨⟩
      exact hnames name hname
    · rw [hopened others hothers]
      rfl

/-- Reading an artifact changes nothing, and depends on the files of its name alone. -/
theorem keepsTo_read (hempty : base.EmptyAt staging home) {output : Text}
    (hbare : IsBareName output)
    (hnames : ∀ name, Text.Utf8.encodeName output = .ok name → names name) :
    base.KeepsTo home names fun d => (d.read (staging.join output), d) := by
  intro entries hfiles
  refine ⟨(base.withEntries home entries).read (staging.join output), none,
    (fun _ hmem => nomatch hmem), fun others hothers hsame => ?_⟩
  rcases read_artifact hempty hbare with ⟨e, hrefused⟩ | ⟨name, hname, hread⟩
  · exact Prod.ext ((hrefused others hothers).trans (hrefused entries hfiles).symm) rfl
  · obtain ⟨hcontent, hnone⟩ := hread others hothers
    obtain ⟨hcontent', hnone'⟩ := hread entries hfiles
    rw [hsame name (hnames name hname)] at hcontent hnone
    cases hentry : Node.entry? name entries with
    | none => exact Prod.ext ((hnone hentry).trans (hnone' hentry).symm) rfl
    | some node =>
      obtain ⟨content, rfl⟩ := hfiles name node hentry
      exact Prod.ext ((hcontent content hentry).trans (hcontent' content hentry).symm) rfl

theorem keepsTo_writeAt (hempty : base.EmptyAt staging home) {name : FileName} (hname : names name)
    (octets : List UInt8) :
    base.KeepsTo home names fun d => d.writeAt (home ++ [name]) octets := by
  intro entries hfiles
  cases hentry : Node.entry? name entries with
  | none =>
    refine ⟨false, none, (fun _ hmem => nomatch hmem), fun others _ hothers => ?_⟩
    dsimp only
    rw [writeAt_entry hempty, hothers name hname, hentry]
    rfl
  | some node =>
    obtain ⟨content, rfl⟩ := hfiles name node hentry
    refine ⟨true, some (name, octets ++ content.drop octets.length), ?_, fun others _ hothers => ?_⟩
    · rintro written ⟨⟩
      exact hname
    · dsimp only
      rw [writeAt_entry hempty, hothers name hname, hentry]
      rfl

theorem keepsTo_flushAt (hempty : base.EmptyAt staging home) {name : FileName} (hname : names name)
    (octets : List UInt8) :
    base.KeepsTo home names fun d => d.flushAt (home ++ [name]) octets := by
  unfold flushAt
  split
  · exact keepsTo_pure true
  · exact keepsTo_writeAt hempty hname octets

end

end Diagnostics
