import Diagnostics.Proofs.Disk.Alike
import Diagnostics.Proofs.Disk.Extends
import Diagnostics.Proofs.Disk.Walk

/-!
# What is in one file

Two disks may be the same but for what one file holds (`Disk.SameBut`). As no request reads a file,
none can tell such disks apart: look-ups and walks see the shape of a tree alone (`Node.shape`), and
what is put somewhere is put beside the file, above it or in its place, and then the disks are the
same but for the file again, or the same altogether (`Node.graft_refilled`).
-/

set_option autoImplicit false

namespace Diagnostics

namespace Node

variable {top node : Node} {name other : FileName} {entries : List (FileName × Node)}
  {place : Location} {old : List UInt8}

/-! ## The shape of a tree -/

mutual

/-- A tree without what its files hold. -/
def shape : Node → Node
  | .directory entries => .directory (shapeEntries entries)
  | .file _ => .file []
  | node => node

def shapeEntries : List (FileName × Node) → List (FileName × Node)
  | [] => []
  | (name, node) :: entries => (name, shape node) :: shapeEntries entries

end

theorem shapeEntries_append (entries others : List (FileName × Node)) :
    shapeEntries (entries ++ others) = shapeEntries entries ++ shapeEntries others := by
  induction entries with
  | nil => rfl
  | cons e entries ih =>
    rw [List.cons_append, shapeEntries, shapeEntries, ih]
    rfl

theorem entry?_shapeEntries (name : FileName) (entries : List (FileName × Node)) :
    entry? name (shapeEntries entries) = ( entry? name entries).map shape := by
  induction entries with
  | nil => rfl
  | cons e entries ih =>
    rw [shapeEntries, entry?, entry?]
    split
    · rfl
    · exact ih

theorem at?_shape (place : Location) : ∀ node : Node,
    node.shape.at? place = (node.at? place).map shape := by
  induction place with
  | nil =>
    intro node
    rw [at?_nil, at?_nil, Option.map_some]
  | cons name rest ih =>
    intro node
    cases node with
    | directory entries =>
      rw [shape, at?_cons, at?_cons, entry?_shapeEntries]
      cases entry? name entries with
      | none => rfl
      | some child => exact ih child
    | _ => rfl

mutual

/-- A walk sees the shape alone. -/
theorem walk_shape (disk : Disk) (path : Path) : ∀ node : Node,
    node.shape.walk disk path = node.walk disk path
  | .directory entries => by
    rw [shape, walk, walk, walkEntries_shapeEntries disk path entries]
  | .file _ => rfl
  | .full => rfl
  | .link _ => rfl

theorem walkEntries_shapeEntries (disk : Disk) (path : Path) :
    ∀ entries : List (FileName × Node),
      walkEntries disk path (shapeEntries entries) = walkEntries disk path entries
  | [] => rfl
  | (name, node) :: entries => by
    rw [shapeEntries, walkEntries, walkEntries, walk_shape disk _ node,
      walkEntries_shapeEntries disk path entries]

end

/-- Another file in the place of a file leaves the shape as it is. -/
theorem shape_graft_file (hat : top.at? place = some (.file old)) (new : List UInt8) :
    (graft (.file new) top place).shape = top.shape := by
  induction place generalizing top with
  | nil =>
    rw [at?_nil] at hat
    rw [graft_nil, Option.some.inj hat, shape, shape]
  | cons name rest ih =>
    obtain ⟨entries, child, rfl, hchild, hfile⟩ := exists_of_at?_cons hat
    obtain ⟨before, after, rfl, hset⟩ := exists_of_entry? hchild
    rw [graft_cons _ rest hchild, hset, shape, shape, shapeEntries_append, shapeEntries_append,
      shapeEntries, shapeEntries, ih hfile]

/-! ## Another file in the place of a file -/

/-- Entries are exchanged in any order, if the first was there. -/
theorem setEntry_comm {child : Node} (h : entry? name entries = some child) (hne : other ≠ name)
    (new node : Node) : setEntry other node (setEntry name new entries) =
      setEntry name new (setEntry other node entries) := by
  induction entries with
  | nil => cases h
  | cons e entries ih =>
    obtain ⟨n, here⟩ := e
    by_cases hname : n = name
    · subst hname
      simp [setEntry, Ne.symm hne]
    · by_cases hother : n = other
      · subst hother
        simp [setEntry, hname]
      · rw [ entry?, if_neg hname] at h
        simp [setEntry, hname, hother, ih h]

/-- What is put below another entry of a directory, or as one, leaves an entry alone, and does not
depend on it. -/
theorem graft_aside {child : Node} (h : entry? name entries = some child) (hne : other ≠ name)
    (node : Node) (rest : Location) :
    ∃ entries', graft node (directory entries) (other :: rest) = directory entries' ∧
      entry? name entries' = some child ∧
      ∀ new, graft node (directory (setEntry name new entries)) (other :: rest) =
        directory (setEntry name new entries') := by
  have hkept : ∀ new, entry? other (setEntry name new entries) = entry? other entries :=
    fun new => entry?_setEntry_of_ne hne new entries
  cases rest with
  | nil =>
    refine ⟨setEntry other node entries, by rw [graft], ?_, fun new => ?_⟩
    · rw [entry?_setEntry_of_ne hne.symm, h]
    · rw [graft, setEntry_comm h hne]
  | cons next rest =>
    cases hother : entry? other entries with
    | none =>
      refine ⟨entries, ?_, h, fun new => ?_⟩
      · rw [graft, hother]
        exact List.cons_ne_nil next rest
      · rw [graft, hkept, hother]
        exact List.cons_ne_nil next rest
    | some there =>
      refine ⟨setEntry other (graft node there (next :: rest)) entries, graft_cons _ _ hother, ?_,
        fun new => ?_⟩
      · rw [entry?_setEntry_of_ne hne.symm, h]
      · rw [graft_cons _ _ ((hkept new).trans hother), setEntry_comm h hne]

/-- What is put in the place of something that was put there stands instead of it. -/
theorem graft_graft (h : top.at? place = some node) (first second : Node) :
    graft second (graft first top place) place = graft second top place := by
  induction place generalizing top with
  | nil => rw [graft_nil, graft_nil]
  | cons name rest ih =>
    obtain ⟨entries, child, rfl, hchild, hat⟩ := exists_of_at?_cons h
    rw [graft_cons _ rest hchild, graft_cons _ rest hchild,
      graft_cons _ rest (entry?_setEntry_self _ _ _), ih hat, setEntry_setEntry]

theorem graft_self (h : top.at? place = some node) : graft node top place = top := by
  induction place generalizing top with
  | nil =>
    rw [at?_nil] at h
    rw [graft_nil, Option.some.inj h]
  | cons name rest ih =>
    obtain ⟨entries, child, rfl, hchild, hat⟩ := exists_of_at?_cons h
    rw [graft_cons _ rest hchild, ih hat, setEntry_self hchild]

/-- **What is put into two trees that are the same but for a file** replaces the file, or leaves it
in both. -/
theorem graft_refilled (hat : top.at? place = some (.file old)) (new : List UInt8) (node : Node)
    (target : Location) :
    graft node (graft (.file new) top place) target = graft node top target ∨
      (graft node top target).at? place = some (.file old) ∧
        graft node (graft (.file new) top place) target =
          graft (.file new) (graft node top target) place := by
  induction place generalizing top target with
  | nil =>
    rw [at?_nil] at hat
    obtain rfl := Option.some.inj hat
    cases target with
    | nil => exact Or.inl (by rw [graft_nil, graft_nil])
    | cons next rest =>
      -- Nothing is put below a file.
      refine Or.inr ?_
      rw [graft_nil, graft_of_isDirectory_eq_false rfl, graft_of_isDirectory_eq_false rfl,
        graft_nil]
      exact ⟨rfl, rfl⟩
  | cons name rest ih =>
    obtain ⟨entries, child, rfl, hchild, hfile⟩ := exists_of_at?_cons hat
    rw [graft_cons _ rest hchild]
    cases target with
    | nil => exact Or.inl (by rw [graft_nil, graft_nil])
    | cons other target =>
      by_cases hother : other = name
      · subst hother
        rw [graft_cons _ target (entry?_setEntry_self _ _ _), setEntry_setEntry,
          graft_cons _ target hchild]
        rcases ih hfile target with hsame | ⟨hkept, hput⟩
        · exact Or.inl (by rw [hsame])
        · refine Or.inr ⟨?_, ?_⟩
          · rw [at?_cons, entry?_setEntry_self]
            exact hkept
          · rw [graft_cons _ rest (entry?_setEntry_self _ _ _), setEntry_setEntry, hput]
      · obtain ⟨entries', hgraft, hkept, hput⟩ := graft_aside hchild hother node target
        rw [hgraft, hput]
        refine Or.inr ⟨?_, (graft_cons _ rest hkept).symm⟩
        rw [at?_cons, hkept]
        exact hfile

end Node

/-! ## Disks -/

namespace Disk

variable {place : Location} {d d' : Disk}

/-- Two disks are the same but for what the file at a place holds. -/
def SameBut (place : Location) (d d' : Disk) : Prop :=
  d' = d ∨ ∃ old new, d.top.at? place = some (.file old) ∧ d' = d.put place (.file new)

namespace SameBut

theorem symm (h : d.SameBut place d') : d'.SameBut place d := by
  obtain rfl | ⟨old, new, hat, rfl⟩ := h
  · exact Or.inl rfl
  · refine Or.inr ⟨new, old, Node.at?_graft_self hat _, ?_⟩
    unfold put
    rw [Node.graft_graft hat, Node.graft_self hat]

theorem outlineAt (h : d.SameBut place d') (seen : Location) :
    d.top.outlineAt seen = d'.top.outlineAt seen := by
  obtain rfl | ⟨old, new, hat, rfl⟩ := h
  · rfl
  · exact (outlineAt_graft_file hat new seen).symm

/-- The same is seen elsewhere. -/
theorem view (h : d.SameBut place d') {seen : Location} (hne : seen ≠ place) :
    d'.top.view seen = d.top.view seen := by
  obtain rfl | ⟨old, new, hat, rfl⟩ := h
  · rfl
  · exact view_graft_file hat new hne

theorem shape (h : d.SameBut place d') : d.top.shape = d'.top.shape := by
  obtain rfl | ⟨old, new, hat, rfl⟩ := h
  · rfl
  · exact (Node.shape_graft_file hat new).symm

theorem workingDirectory (h : d.SameBut place d') : d.workingDirectory = d'.workingDirectory := by
  obtain rfl | ⟨old, new, hat, rfl⟩ := h <;> rfl

theorem unlistable (h : d.SameBut place d') : d.unlistable = d'.unlistable := by
  obtain rfl | ⟨old, new, hat, rfl⟩ := h <;> rfl

theorem put (h : d.SameBut place d') (target : Location) (node : Node) :
    (d.put target node).SameBut place (d'.put target node) := by
  obtain rfl | ⟨old, new, hat, rfl⟩ := h
  · exact Or.inl rfl
  · unfold Disk.put
    rcases Node.graft_refilled hat new node target with hsame | ⟨hkept, hput⟩
    · exact Or.inl (by rw [hsame])
    · exact Or.inr ⟨old, new, hkept, by rw [Disk.put, hput]⟩

/-- Octets are written to the beginning of a file. If it is the one, it goes on to hold what it
held, behind them. -/
theorem overwrite {target : Location} {content content' : List UInt8} (h : d.SameBut place d')
    (hat : d.top.at? target = some (.file content))
    (hat' : d'.top.at? target = some (.file content')) (octets : List UInt8) :
    (d.put target (.file (octets ++ content.drop octets.length))).SameBut place
      (d'.put target (.file (octets ++ content'.drop octets.length))) := by
  by_cases htarget : target = place
  · subst htarget
    obtain rfl | ⟨old, new, -, rfl⟩ := h
    · rw [hat] at hat'
      cases hat'
      exact Or.inl rfl
    · refine Or.inr ⟨_, octets ++ content'.drop octets.length, Node.at?_graft_self hat _, ?_⟩
      unfold Disk.put
      rw [Node.graft_graft hat, Node.graft_graft hat]
  · have hview := h.view htarget
    unfold Node.view at hview
    rw [hat, hat'] at hview
    cases hview
    exact h.put target _

end SameBut

/-- No request can tell disks apart that are the same but for what a file holds. -/
theorem isLikeness_sameBut (place : Location) : IsLikeness (SameBut place) where
  outlineAt := SameBut.outlineAt
  workingDirectory := SameBut.workingDirectory
  put := SameBut.put
  overwrite := SameBut.overwrite

/-- What a walk collects is told by the shape of the tree. -/
theorem SameBut.walkRoot (h : d.SameBut place d') (root : Path) :
    d.walkRoot root = d'.walkRoot root := by
  have hfault : ∀ path, d.listingFault? path = d'.listingFault? path := by
    intro path
    unfold listingFault?
    rw [h.unlistable]
  unfold Disk.walkRoot node?
  rw [(isLikeness_sameBut place).locate h]
  cases d'.locate ⟨false, false⟩ root with
  | error e => cases e <;> rfl
  | ok arrival =>
    cases arrival with
    | vacant seen => rfl
    | found seen =>
      have hshape := congrArg (Node.at? · seen) h.shape
      dsimp only at hshape ⊢
      rw [Node.at?_shape, Node.at?_shape] at hshape
      generalize d.top.at? seen = there at hshape
      generalize d'.top.at? seen = there' at hshape
      cases there with
      | none =>
        obtain rfl := Option.map_eq_none_iff.mp hshape.symm
        rfl
      | some node =>
        obtain ⟨node', rfl, hnode⟩ := Option.map_eq_some_iff.mp hshape.symm
        dsimp only
        rw [← Node.walk_shape d root node, ← hnode, Node.walk_shape, Node.walk_congr hfault]

theorem SameBut.collect (h : d.SameBut place d') (roots : List Path) :
    d.collect roots = d'.collect roots := by
  induction roots with
  | nil => rfl
  | cons root roots ih => rw [Disk.collect, Disk.collect, h.walkRoot, ih]

end Disk

end Diagnostics
