import Diagnostics.Proofs.Disk.Staging
import Diagnostics.Proofs.StableSort
import Diagnostics.Proofs.TextOrder
import Diagnostics.FileTree

/-!
# Walks that do not get to the staging directory

What a walk collects depends on everything that it gets to, and on nothing else. It gets to a
directory if it has listed all directories above it and was not ended before by a refusal in a
directory that comes earlier in the order of names (`Node.Reaches`). A root is also found by a
look-up, which may itself lead into the staging directory. A root that does neither is walked in the
same way on all disks of a run (`collect_withEntries`).

The walk sorts the entries of a directory after walking them, so the argument is about a sorted list
of harvests in which one is exchanged that lies behind a refusal.
-/

set_option autoImplicit false

namespace Diagnostics

open StableSort

/-! ## Harvests behind a refusal -/

namespace Harvest

/-- The harvest of an entry under its name, on two disks. -/
abbrev Pair := Text × Harvest × Harvest

/-- In the order of names, harvests that differ only from one name on, behind a refusal, make the
same. -/
theorem foldr_andThen_eq {k : Text} : ∀ {pairs : List Pair},
    pairs.Pairwise (fun a b => a.1 ≤ b.1) →
    (∀ p ∈ pairs, p.2.1 = p.2.2 ∨ k ≤ p.1) →
    (∃ p ∈ pairs, p.1 < k ∧ p.2.1.fault ≠ none) →
      (pairs.map fun p => p.2.1).foldr andThen empty =
        (pairs.map fun p => p.2.2).foldr andThen empty
  | [], _, _, ⟨_, hp, _⟩ => absurd hp List.not_mem_nil
  | q :: pairs, hsorted, hsame, ⟨p, hp, hlt, hfault⟩ => by
    obtain ⟨hfirst, hsorted⟩ := List.pairwise_cons.mp hsorted
    have hqlt : q.1 < k := by
      rcases List.mem_cons.mp hp with rfl | hp
      · exact hlt
      · exact Std.lt_of_le_of_lt (hfirst p hp) hlt
    have hq : q.2.1 = q.2.2 := by
      rcases hsame q List.mem_cons_self with hq | hle
      · exact hq
      · exact absurd hqlt (Std.not_lt.mpr hle)
    rw [List.map_cons, List.map_cons, List.foldr_cons, List.foldr_cons, ← hq]
    cases hqfault : q.2.1.fault with
    | some fault =>
      -- The walk ends here on both disks.
      unfold andThen
      rw [hqfault]
    | none =>
      have hrest : p ∈ pairs := by
        rcases List.mem_cons.mp hp with rfl | hp
        · exact absurd hqfault hfault
        · exact hp
      rw [foldr_andThen_eq hsorted (fun r hr => hsame r (List.mem_cons_of_mem _ hr))
        ⟨p, hrest, hlt, hfault⟩]

/-- Items are walked in the order of their names. -/
theorem inOrder_map {α : Type} (key : α → Text) (take : α → Harvest) (items : List α) :
    inOrder (items.map fun item => (key item, take item)) =
      ((byKey key items).map take).foldr andThen empty := by
  have hmap : ((byKey key items).map fun item => (key item, take item)) =
      (items.map fun item => (key item, take item)).mergeSort fun a b => a.1 ≤ b.1 :=
    List.map_mergeSort fun a _ b _ => rfl
  unfold inOrder
  rw [← hmap, List.map_map]
  rfl

/-- Exchanging one harvest behind a refusal makes no difference. -/
theorem inOrder_eq {k : Text} {before after : List (Text × Harvest)} (h h' : Harvest)
    (hcut : ∃ e ∈ before ++ after, e.1 < k ∧ e.2.fault ≠ none) :
    inOrder (before ++ (k, h) :: after) = inOrder (before ++ (k, h') :: after) := by
  let double : Text × Harvest → Pair := fun e => (e.1, e.2, e.2)
  let pairs : List Pair := before.map double ++ (k, h, h') :: after.map double
  have hone : before ++ (k, h) :: after = pairs.map fun p => (p.1, p.2.1) := by
    simp [pairs, double, Function.comp_def]
  have htwo : before ++ (k, h') :: after = pairs.map fun p => (p.1, p.2.2) := by
    simp [pairs, double, Function.comp_def]
  -- Both lists are sorted by the names alone.
  rw [hone, htwo, inOrder_map, inOrder_map]
  refine @foldr_andThen_eq k _ (pairwise_byKey pairs) (fun p hp => ?_) ?_
  · have hmem := (byKey_perm pairs).mem_iff.mp hp
    rcases List.mem_append.mp hmem with hmem | hmem
    · obtain ⟨e, -, rfl⟩ := List.mem_map.mp hmem
      exact Or.inl rfl
    · rcases List.mem_cons.mp hmem with rfl | hmem
      · exact Or.inr (Std.le_refl k)
      · obtain ⟨e, -, rfl⟩ := List.mem_map.mp hmem
        exact Or.inl rfl
  · obtain ⟨e, he, hlt, hfault⟩ := hcut
    refine ⟨double e, (byKey_perm pairs).mem_iff.mpr ?_, hlt, hfault⟩
    rcases List.mem_append.mp he with he | he
    · exact List.mem_append_left _ (List.mem_map_of_mem he)
    · exact List.mem_append_right _ (List.mem_cons_of_mem _ (List.mem_map_of_mem he))

end Harvest

/-! ## The walk of a node -/

namespace Node

open Text.Utf8 (decodeName)

/-- The walk of what stands at a path gets to what stands at a location below it. -/
def Reaches (disk : Disk) : Path → Node → Location → Prop
  | _, _, [] => True
  | path, .directory entries, name :: rest =>
    disk.listingFault? path = none ∧
      (∀ e ∈ entries, decodeName e.1 < decodeName name →
        (Node.walk disk (path.child (decodeName e.1)) e.2).fault = none) ∧
      ∃ child, entry? name entries = some child ∧
        Reaches disk (path.child (decodeName name)) child rest
  | _, _, _ :: _ => False

theorem walkEntries_eq_map (disk : Disk) (path : Path) (entries : List (FileName × Node)) :
    walkEntries disk path entries =
      entries.map fun e =>
        (decodeName e.1, Node.walk disk (path.child (decodeName e.1)) e.2) := by
  induction entries with
  | nil => rfl
  | cons e entries ih =>
    obtain ⟨name, node⟩ := e
    rw [walkEntries, ih]
    rfl

/-- A walk that does not get to a directory does not depend on its entries. -/
theorem walk_withEntries {disk : Disk} {rest : Location} {old entries : List (FileName × Node)} :
    ∀ {path : Path} {node : Node}, node.at? rest = some (.directory old) →
      ¬ node.Reaches disk path rest →
        (node.withEntries rest entries).walk disk path = node.walk disk path := by
  induction rest with
  | nil => exact fun _ hreaches => absurd trivial hreaches
  | cons name rest ih =>
    intro path node hat hreaches
    obtain ⟨others, child, rfl, hchild, hat⟩ := exists_of_at?_cons hat
    rw [withEntries_cons rest hchild, walk, walk]
    cases hfault : disk.listingFault? path with
    | some fault => rfl
    | none =>
      dsimp only
      obtain ⟨before, after, hothers, hset⟩ := exists_of_entry? hchild
      rw [hset, hothers, walkEntries_eq_map, walkEntries_eq_map, List.map_append, List.map_append,
        List.map_cons, List.map_cons]
      by_cases hchildReaches : child.Reaches disk (path.child (decodeName name)) rest
      · -- The walk is ended before it gets to the entry.
        refine Harvest.inOrder_eq _ _ ?_
        refine Classical.byContradiction fun hcut => hreaches ⟨hfault, fun e he hlt => ?_,
          child, hchild, hchildReaches⟩
        refine Classical.byContradiction fun hended => hcut
          ⟨(decodeName e.1, walk disk (path.child (decodeName e.1)) e.2), ?_, hlt, hended⟩
        rw [← List.map_append]
        rw [hothers] at he
        rcases List.mem_append.mp he with he | he
        · exact List.mem_map_of_mem (List.mem_append_left _ he)
        · rcases List.mem_cons.mp he with rfl | he
          · exact absurd hlt (Std.lt_irrefl)
          · exact List.mem_map_of_mem (List.mem_append_right _ he)
      · rw [ih hat hchildReaches]

mutual

/-- A walk asks the disk only which directories refuse to be listed. -/
theorem walk_congr {disk disk' : Disk}
    (h : ∀ path, disk'.listingFault? path = disk.listingFault? path) (path : Path) :
    ∀ node : Node, node.walk disk' path = node.walk disk path
  | .directory entries => by
    rw [walk, walk, h path, walkEntries_congr h path entries]
  | .file _ => rfl
  | .full => rfl
  | .link _ => rfl

theorem walkEntries_congr {disk disk' : Disk}
    (h : ∀ path, disk'.listingFault? path = disk.listingFault? path) (path : Path) :
    ∀ entries : List (FileName × Node),
      walkEntries disk' path entries = walkEntries disk path entries
  | [] => rfl
  | (name, node) :: entries => by
    rw [walkEntries, walkEntries, walk_congr h _ node, walkEntries_congr h path entries]

end

end Node

/-! ## The walk of a root -/

/-- The places that the look-up of a path looks at, a link at its end not being followed. -/
def Disk.looks (disk : Disk) (path : Path) : List Location :=
  match Disk.pathOctets path.text with
  | .error _ => []
  | .ok octets =>
    resolveLooks disk.top ⟨false, false⟩ linkLimit (writtenStart disk.workingDirectory octets)
      (writtenNames octets)

/-- The walk of a root gets to a directory: its look-up leads into it, or it leads to a place from
which the walk gets there. -/
def Disk.RootReaches (disk : Disk) (home : Location) (root : Path) : Prop :=
  (∃ place ∈ disk.looks root, Node.Below home place) ∨
    ∃ place, disk.locate ⟨false, false⟩ root = .ok (.found place) ∧
      (Node.Below home place ∨ ∃ rest node, place ++ rest = home ∧
        disk.top.at? place = some node ∧ node.Reaches disk root rest)

section

variable {disk : Disk} {staging root : Path} {home : Location}
  {entries : List (FileName × Node)}

/-- A look-up that does not lead into the staging directory has the same outcome on all disks of a
run. -/
theorem locate_withEntries (h : disk.EmptyAt staging home)
    (hlooks : ∀ place ∈ disk.looks root, ¬ Node.Below home place) :
    (disk.withEntries home entries).locate ⟨false, false⟩ root =
      disk.locate ⟨false, false⟩ root := by
  unfold Disk.looks at hlooks
  unfold Disk.locate Disk.locateText
  cases hoctets : Disk.pathOctets root.text with
  | error e => rfl
  | ok octets =>
    rw [hoctets] at hlooks
    dsimp only
    have hresolve : resolve (disk.top.withEntries home entries) ⟨false, false⟩ linkLimit
        (writtenStart disk.workingDirectory octets) (writtenNames octets) =
          resolve disk.top ⟨false, false⟩ linkLimit
            (writtenStart disk.workingDirectory octets) (writtenNames octets) :=
      resolve_withEntries h.empty hlooks
    have htop : (disk.withEntries home entries).top = disk.top.withEntries home entries := rfl
    have hstart : (disk.withEntries home entries).workingDirectory = disk.workingDirectory := rfl
    rw [htop, hstart, hresolve]

/-- A root whose walk does not get to the staging directory is walked in the same way on all disks
of a run. -/
theorem walkRoot_withEntries (h : disk.EmptyAt staging home)
    (hreaches : ¬ disk.RootReaches home root) :
    (disk.withEntries home entries).walkRoot root = disk.walkRoot root := by
  have hlocate : (disk.withEntries home entries).locate ⟨false, false⟩ root =
      disk.locate ⟨false, false⟩ root :=
    locate_withEntries h fun place hplace hbelow => hreaches (Or.inl ⟨place, hplace, hbelow⟩)
  have hfault : ∀ path,
      (disk.withEntries home entries).listingFault? path = disk.listingFault? path :=
    fun _ => rfl
  unfold Disk.walkRoot Disk.node?
  rw [hlocate]
  cases hfound : disk.locate ⟨false, false⟩ root with
  | error e => cases e <;> rfl
  | ok arrival =>
    cases arrival with
    | vacant place => rfl
    | found place =>
      dsimp only
      by_cases habove : place <+: home
      · -- The directory is below the root.
        obtain ⟨rest, hrest⟩ := habove
        have hempty := h.empty
        rw [← hrest, Node.at?_append] at hempty
        obtain ⟨node, hnode, hat⟩ := Option.bind_eq_some_iff.mp hempty
        have hwith : (disk.withEntries home entries).top.at? place =
            some (node.withEntries rest entries) :=
          hrest ▸ Node.at?_withEntries_above hnode
        rw [hwith, hnode]
        dsimp only
        rw [Node.walk_congr hfault, Node.walk_withEntries hat fun hnodeReaches =>
          hreaches (Or.inr ⟨place, hfound, Or.inr ⟨rest, node, hrest, hnode, hnodeReaches⟩⟩)]
      · -- The root is neither above nor below the directory, and stands there as before.
        have hbelow : ¬ home <+: place := fun hbelow => hreaches (Or.inr ⟨place, hfound,
          Or.inl ⟨hbelow, fun heq => habove (heq ▸ List.prefix_rfl)⟩⟩)
        have haside : (disk.withEntries home entries).top.at? place = disk.top.at? place :=
          Node.at?_withEntries_aside h.empty habove hbelow
        rw [haside]
        cases disk.top.at? place with
        | none => rfl
        | some node =>
          dsimp only
          rw [Node.walk_congr hfault]

/-- Collecting from roots whose walks do not get to the staging directory gives the same on all
disks of a run. -/
theorem collect_withEntries (h : disk.EmptyAt staging home) {roots : List Path}
    (hreaches : ∀ root ∈ roots, ¬ disk.RootReaches home root) :
    (disk.withEntries home entries).collect roots = disk.collect roots := by
  induction roots with
  | nil => rfl
  | cons root roots ih =>
    rw [Disk.collect, Disk.collect, walkRoot_withEntries h (hreaches root List.mem_cons_self),
      ih fun r hr => hreaches r (List.mem_cons_of_mem _ hr)]

end

end Diagnostics
