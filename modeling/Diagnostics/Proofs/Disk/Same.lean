import Diagnostics.Proofs.Disk.Alike
import Diagnostics.Proofs.Disk.Territory

/-!
# Disks that hold the same files

Two runs may put the same files into a directory in different orders, and then their trees are not
equal: entries stand in the order in which they were made. What no request can tell apart is what
counts. `Disk.SameFiles` says that the same is seen at every place, and requests to such disks are
answered alike and leave such disks.
-/

set_option autoImplicit false

namespace Diagnostics

namespace Node

/-- The same is seen at every place below two nodes. -/
def SameView (a b : Node) : Prop :=
  ∀ place, a.view place = b.view place

theorem view_cons (entries : List (FileName × Node)) (name : FileName) (rest : Location) :
    (directory entries).view (name :: rest) =
      Option.bind ( entry? name entries) fun child => child.view rest := by
  unfold view
  rw [at?_cons]
  cases entry? name entries <;> rfl

theorem view_nil (node : Node) : node.view [] = some node.bare := by
  unfold view
  rw [at?_nil, Option.map_some]

theorem SameView.bare_eq {a b : Node} (h : a.SameView b) : a.bare = b.bare := by
  have hnil := h []
  rw [view_nil, view_nil] at hnil
  exact Option.some.inj hnil

/-- What looks like a directory is one. -/
theorem exists_of_bare_eq {entries : List (FileName × Node)} {b : Node}
    (h : (directory entries).bare = b.bare) : ∃ others, b = directory others := by
  cases b with
  | directory others => exact ⟨others, rfl⟩
  | _ => cases h

theorem isDirectory_bare (node : Node) : node.bare.isDirectory = node.isDirectory := by
  cases node <;> rfl

theorem SameView.isDirectory_eq {a b : Node} (h : a.SameView b) :
    a.isDirectory = b.isDirectory := by
  rw [← isDirectory_bare a, ← isDirectory_bare b, h.bare_eq]

/-- Directories that look the same have entries of the same names, and these look the same. -/
theorem SameView.entries {entries others : List (FileName × Node)}
    (h : (directory entries).SameView (directory others)) (name : FileName) :
    ( entry? name entries = none ∧ entry? name others = none) ∨
      ∃ child child', entry? name entries = some child ∧ entry? name others = some child' ∧
        child.SameView child' := by
  have hview : ∀ rest, (Option.bind ( entry? name entries) fun child => child.view rest) =
      Option.bind ( entry? name others) fun child => child.view rest := by
    intro rest
    rw [← view_cons, ← view_cons]
    exact h (name :: rest)
  cases hchild : entry? name entries with
  | none =>
    cases hchild' : entry? name others with
    | none => exact Or.inl ⟨rfl, rfl⟩
    | some child' =>
      have hnil := hview []
      rw [hchild, hchild', Option.bind_none, Option.bind_some, view_nil] at hnil
      cases hnil
  | some child =>
    cases hchild' : entry? name others with
    | none =>
      have hnil := hview []
      rw [hchild, hchild', Option.bind_none, Option.bind_some, view_nil] at hnil
      cases hnil
    | some child' =>
      refine Or.inr ⟨child, child', rfl, rfl, fun rest => ?_⟩
      have hrest := hview rest
      rwa [hchild, hchild', Option.bind_some, Option.bind_some] at hrest

/-- Directories look the same if their entries do. -/
theorem sameView_directory {entries others : List (FileName × Node)}
    (h : ∀ name rest, (Option.bind ( entry? name entries) fun child => child.view rest) =
      Option.bind ( entry? name others) fun child => child.view rest) :
    (directory entries).SameView (directory others) := by
  intro place
  cases place with
  | nil => rfl
  | cons name rest =>
    rw [view_cons, view_cons]
    exact h name rest

theorem SameView.setEntry {entries others : List (FileName × Node)} {new new' : Node}
    (h : (directory entries).SameView (directory others)) (hnew : new.SameView new')
    (name : FileName) :
    (directory (setEntry name new entries)).SameView (directory (setEntry name new' others)) := by
  refine sameView_directory fun other rest => ?_
  by_cases hother : other = name
  · rw [hother, entry?_setEntry_self, entry?_setEntry_self]
    exact hnew rest
  · rw [entry?_setEntry_of_ne hother, entry?_setEntry_of_ne hother, ← view_cons, ← view_cons]
    exact h (other :: rest)

/-- A node that is put at one place of two trees that look the same. -/
theorem SameView.graft (new : Node) (place : Location) : ∀ {top top' : Node},
    top.SameView top' → (graft new top place).SameView (graft new top' place) := by
  induction place with
  | nil =>
    intro top top' _
    rw [Node.graft, Node.graft]
    exact fun _ => rfl
  | cons name rest ih =>
    intro top top' h
    cases top with
    | directory entries =>
      obtain ⟨others, rfl⟩ := exists_of_bare_eq h.bare_eq
      rcases h.entries name with ⟨hnone, hnone'⟩ | ⟨child, child', hchild, hchild', hsame⟩
      · cases rest with
        | nil =>
          rw [Node.graft, Node.graft]
          exact h.setEntry (fun _ => rfl) name
        | cons next rest =>
          rw [Node.graft, Node.graft, hnone, hnone']
          · exact h
          · exact List.cons_ne_nil next rest
          · exact List.cons_ne_nil next rest
      · rw [graft_cons new rest hchild, graft_cons new rest hchild']
        exact h.setEntry (ih hsame) name
    -- Nothing is put below any other node, on either side.
    | _ =>
      rw [graft_of_isDirectory_eq_false rfl,
        graft_of_isDirectory_eq_false (h.isDirectory_eq.symm.trans rfl)]
      exact h

end Node

namespace Disk

/-- Two disks on which the same is seen everywhere. -/
structure SameFiles (d d' : Disk) : Prop where
  view : d.top.SameView d'.top
  workingDirectory : d.workingDirectory = d'.workingDirectory
  unlistable : d.unlistable = d'.unlistable

/-- No request can tell disks apart that hold the same files. -/
theorem isLikeness_sameFiles : IsLikeness SameFiles where
  outlineAt h place := Node.outlineAt_eq_of_view (h.view place)
  workingDirectory h := h.workingDirectory
  put h place node := ⟨h.view.graft node place, h.workingDirectory, h.unlistable⟩
  overwrite := by
    intro d d' place content content' h hat hat' octets
    have hview := h.view place
    unfold Node.view at hview
    rw [hat, hat'] at hview
    cases hview
    exact ⟨h.view.graft _ place, h.workingDirectory, h.unlistable⟩

/-! ## The directory of a run -/

/-- Disks of a run that agree on all names in the staging directory hold the same files. -/
theorem Staged.sameFiles {base d d' : Disk} {staging : Path} {home : Location}
    (hempty : base.EmptyAt staging home) (hd : base.Staged home d) (hd' : base.Staged home d')
    (h : AgreeOn (fun _ => True) home d d') : d.SameFiles d' := by
  obtain ⟨entries, -, rfl⟩ := hd
  obtain ⟨others, -, rfl⟩ := hd'
  refine ⟨fun place => ?_, rfl, rfl⟩
  by_cases hbelow : Node.Below home place
  · -- What stands below the directory stands below an entry, and the entries agree.
    obtain ⟨rest, hrest, rfl⟩ := Node.exists_of_below hbelow
    obtain ⟨name, rest, rfl⟩ := List.exists_cons_of_ne_nil hrest
    have hentry := h name trivial
    rw [hempty.at?_entry, hempty.at?_entry] at hentry
    show ((base.top.withEntries home entries).at? _).map _ =
      ((base.top.withEntries home others).at? _).map _
    rw [Node.at?_withEntries hempty.empty, Node.at?_withEntries hempty.empty, Node.at?_cons,
      Node.at?_cons, hentry]
  · show (base.top.withEntries home entries).view place = (base.top.withEntries home others).view place
    rw [Node.view_withEntries hempty.empty hbelow, Node.view_withEntries hempty.empty hbelow]

end Disk

end Diagnostics
