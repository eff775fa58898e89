import Diagnostics.Proofs.Disk.Walk
import Diagnostics.Proofs.Text.FileNames

/-!
# What a walk collects

A walk that is not ended by a refusal collects every file below its root, once, in the order of the
names. What counts as below the root is told by `Node.at?`, which goes from directory to directory
and through nothing else: a link is a leaf like a file, so it is collected and not followed, and a
cycle of links is of no consequence.

Files are ordered by the names on the way to them, one name after another; that is not the order of
the written paths, since a slash sorts among other characters. The names of one directory are
distinct and so are the texts that they are shown as (`Text.Utf8.decodeName_injective`), which is
why the order is strict.

A walk is a recursion on the tree. What carries it is `Harvest.IsCut`, which tells a harvest that
may have been ended: the files in their order are split where the first directory refuses to be
listed, and the harvest is the first part. The harvest of a directory is made of those of its
entries, put in the order of their names, and what is below an entry comes before all that is below
a later one. That a walk which nothing refuses is complete (`Harvest.IsComplete`) is the case without
a split.
-/

set_option autoImplicit false

namespace Diagnostics

open StableSort
open Text.Utf8 (decodeName)

/-! ## Paths of what is below a root -/

/-- The path of what is found by these names below a path. -/
def Path.below (p : Path) (names : List Text) : Path :=
  { p with parts := p.parts ++ names }

@[simp] theorem Path.below_nil (p : Path) : p.below [] = p := by
  simp [below]

theorem Path.below_child (p : Path) (name : Text) (names : List Text) :
    (p.child name).below names = p.below (name :: names) := by
  simp [below, child]

/-- The names of a place as they are shown. -/
def Location.shown (place : Location) : List Text :=
  place.map decodeName

namespace Node

/-- In each directory of the tree, each name is used once, as in every file system. -/
def HasDistinctNames (node : Node) : Prop :=
  ∀ place entries, node.at? place = some (.directory entries) → (entries.map Prod.fst).Nodup

/-- Each directory of a tree that stands at a path can be listed. -/
def IsListable (disk : Disk) (path : Path) (node : Node) : Prop :=
  ∀ place entries, node.at? place = some (.directory entries) →
    disk.listingFault? (path.below (Location.shown place)) = none

/-- At a place below a node stands something that is not a directory. -/
def IsLeafAt (node : Node) (place : Location) : Prop :=
  ∃ leaf, node.at? place = some leaf ∧ leaf.isDirectory = false

variable {entries : List (FileName × Node)}

/-- Where each name is used once, the entry of a name is the one that has it. -/
theorem mem_entries_iff (h : (entries.map Prod.fst).Nodup) {name : FileName} {child : Node} :
    entry? name entries = some child ↔ (name, child) ∈ entries := by
  induction entries with
  | nil =>
    unfold entry?
    simp
  | cons e entries ih =>
    obtain ⟨n, node⟩ := e
    rw [List.map_cons, List.nodup_cons] at h
    obtain ⟨hfresh, hrest⟩ := h
    unfold entry?
    by_cases hname : n = name
    · subst hname
      have hnot : (n, child) ∉ entries := fun hmem =>
        hfresh (List.mem_map.mpr ⟨_, hmem, rfl⟩)
      rw [if_pos rfl, List.mem_cons, Option.some.injEq, Prod.mk.injEq]
      constructor
      · exact fun heq => Or.inl ⟨rfl, heq.symm⟩
      · rintro (⟨-, heq⟩ | hmem)
        · exact heq.symm
        · exact absurd hmem hnot
    · have hne : (name, child) ≠ (n, node) := fun heq => hname (Prod.mk.inj heq).1.symm
      rw [if_neg hname, ih hrest, List.mem_cons, or_iff_right hne]

theorem at?_directory_cons {name : FileName} {child : Node} {place : Location}
    (h : entry? name entries = some child) :
    (directory entries).at? (name :: place) = child.at? place := by
  rw [at?_cons, h, Option.bind_some]

/-- The leaves below a directory are those below its entries. -/
theorem isLeafAt_directory (h : (entries.map Prod.fst).Nodup) {place : Location} :
    (directory entries).IsLeafAt place ↔
      ∃ e ∈ entries, ∃ rest, place = e.1 :: rest ∧ e.2.IsLeafAt rest := by
  constructor
  · rintro ⟨leaf, hat, hleaf⟩
    cases place with
    | nil =>
      rw [at?_nil] at hat
      cases hat
      cases hleaf
    | cons name rest =>
      rw [at?_cons] at hat
      obtain ⟨child, hchild, hat⟩ := Option.bind_eq_some_iff.mp hat
      exact ⟨(name, child), (mem_entries_iff h).mp hchild, rest, rfl, leaf, hat, hleaf⟩
  · rintro ⟨e, he, rest, rfl, leaf, hat, hleaf⟩
    exact ⟨leaf, (at?_directory_cons ((mem_entries_iff h).mpr he)).trans hat, hleaf⟩

theorem isLeafAt_of_not_directory {node : Node} (h : node.isDirectory = false) {place : Location} :
    node.IsLeafAt place ↔ place = [] := by
  constructor
  · rintro ⟨leaf, hat, -⟩
    cases place with
    | nil => rfl
    | cons name rest =>
      obtain ⟨entries, -, rfl, -⟩ := exists_of_at?_cons hat
      cases h
  · rintro rfl
    exact ⟨node, at?_nil node, h⟩

/-- What stands below a place of a directory stands below one of its entries. -/
theorem forall_at?_directory (h : (entries.map Prod.fst).Nodup)
    {P : Location → List (FileName × Node) → Prop} :
    (∀ place others, (directory entries).at? place = some (.directory others) → P place others) ↔
      P [] entries ∧ ∀ e ∈ entries, ∀ place others,
        e.2.at? place = some (.directory others) → P (e.1 :: place) others := by
  constructor
  · intro hall
    refine ⟨hall [] entries (at?_nil _), fun e he place others hat => hall _ _ ?_⟩
    exact (at?_directory_cons ((mem_entries_iff h).mpr he)).trans hat
  · rintro ⟨htop, hbelow⟩ place others hat
    cases place with
    | nil =>
      rw [at?_nil] at hat
      cases hat
      exact htop
    | cons name place =>
      rw [at?_cons] at hat
      obtain ⟨child, hchild, hat⟩ := Option.bind_eq_some_iff.mp hat
      exact hbelow (name, child) ((mem_entries_iff h).mp hchild) place others hat

theorem hasDistinctNames_directory :
    (directory entries).HasDistinctNames ↔
      (entries.map Prod.fst).Nodup ∧ ∀ e ∈ entries, e.2.HasDistinctNames := by
  constructor
  · intro h
    have hnames : (entries.map Prod.fst).Nodup := h [] entries (at?_nil _)
    exact ⟨hnames, ((forall_at?_directory hnames).mp h).2⟩
  · rintro ⟨hnames, hbelow⟩
    exact (forall_at?_directory hnames).mpr ⟨hnames, hbelow⟩

theorem isListable_directory (h : (entries.map Prod.fst).Nodup) {disk : Disk} {path : Path} :
    (directory entries).IsListable disk path ↔
      disk.listingFault? path = none ∧
        ∀ e ∈ entries, e.2.IsListable disk (path.child (decodeName e.1)) := by
  unfold IsListable
  rw [forall_at?_directory h, Location.shown, List.map_nil, Path.below_nil]
  simp only [Path.below_child]
  rfl

/-- What is said of directories is not said of a leaf. -/
theorem forall_at?_leaf {node : Node} (h : node.isDirectory = false)
    {P : Location → List (FileName × Node) → Prop} :
    ∀ place entries, node.at? place = some (.directory entries) → P place entries := by
  intro place entries hat
  cases place with
  | nil =>
    rw [at?_nil] at hat
    cases hat
    cases h
  | cons name rest =>
    obtain ⟨others, -, rfl, -⟩ := exists_of_at?_cons hat
    cases h

theorem hasDistinctNames_leaf {node : Node} (h : node.isDirectory = false) :
    node.HasDistinctNames :=
  forall_at?_leaf h

theorem isListable_leaf {node : Node} (h : node.isDirectory = false) {disk : Disk} {path : Path} :
    node.IsListable disk path :=
  forall_at?_leaf h

end Node

/-! ## Harvests that are cut -/

/-- These are the places of a kind, each once, in the order of the names on the way to them. -/
structure Location.Lists (found : List Location) (leaf : Location → Prop) : Prop where
  ordered : (found.map shown).Pairwise (· < ·)
  complete : ∀ place, place ∈ found ↔ leaf place

namespace Node

/-- At a place below a node that stands at a path is a directory that refuses to be listed. -/
def RefusesAt (disk : Disk) (path : Path) (node : Node) (place : Location) (fault : OsFault) :
    Prop :=
  ∃ entries, node.at? place = some (.directory entries) ∧
    disk.listingFault? (path.below (Location.shown place)) = some fault

/-- A place is one of the places below an entry that are of its kind. -/
def InEntry (entries : List (FileName × Node)) (kind : FileName × Node → Location → Prop)
    (place : Location) : Prop :=
  ∃ e ∈ entries, ∃ rest, place = e.1 :: rest ∧ kind e rest

end Node

/-- A harvest has what is at these places below a path, up to the first place at which something
refuses; that has ended it. -/
inductive Harvest.IsCut (path : Path) (leaf : Location → Prop)
    (refuses : Location → OsFault → Prop) : Harvest → Prop
  /-- Nothing refuses. -/
  | whole {found : List Location} : Location.Lists found leaf →
      (∀ place fault, ¬ refuses place fault) →
        IsCut path leaf refuses ⟨found.map fun place => path.below (Location.shown place), none⟩
  /-- What comes before the first refusal is kept. -/
  | cut {before after : List Location} {first : Location} {fault : OsFault} :
      Location.Lists (before ++ after) leaf → refuses first fault →
      (∀ place other, refuses place other → Location.shown first ≤ Location.shown place) →
      (∀ place ∈ before, Location.shown place < Location.shown first) →
      (∀ place ∈ after, Location.shown first ≤ Location.shown place) →
        IsCut path leaf refuses
          ⟨before.map fun place => path.below (Location.shown place), some fault⟩

section

variable {path : Path} {e : FileName × Node} {entries : List (FileName × Node)}
  {leaf : FileName × Node → Location → Prop}
  {refuses : FileName × Node → Location → OsFault → Prop}

/-- What is below an entry comes before what is below the entries of greater names. -/
theorem Node.InEntry.lt {place : Location}
    (hfirst : ∀ e' ∈ entries, decodeName e.1 < decodeName e'.1) (h : InEntry entries leaf place)
    (rest : Location) : Location.shown (e.1 :: rest) < Location.shown place := by
  obtain ⟨e', he', rest', rfl, -⟩ := h
  exact List.cons_lt_cons_iff.mpr (Or.inl (hfirst e' he'))

/-- The places of an entry and those of entries of greater names. -/
theorem Location.Lists.cons {found later : List Location}
    (hfirst : ∀ e' ∈ entries, decodeName e.1 < decodeName e'.1) (h : Lists found (leaf e))
    (hlater : Lists later (Node.InEntry entries leaf)) :
    Lists (found.map (e.1 :: ·) ++ later) (Node.InEntry (e :: entries) leaf) where
  ordered := by
    rw [List.map_append, List.pairwise_append]
    refine ⟨?_, hlater.ordered, fun a ha b hb => ?_⟩
    · -- Below one entry the order is that below it.
      have hordered := h.ordered
      rw [List.pairwise_map] at hordered ⊢
      rw [List.pairwise_map]
      exact hordered.imp fun hlt => List.cons_lt_cons_iff.mpr (Or.inr ⟨rfl, hlt⟩)
    · obtain ⟨place, hplace, rfl⟩ := List.mem_map.mp ha
      obtain ⟨rest, -, rfl⟩ := List.mem_map.mp hplace
      obtain ⟨place', hplace', rfl⟩ := List.mem_map.mp hb
      exact ((hlater.complete place').mp hplace').lt hfirst rest
  complete place := by
    rw [List.mem_append, hlater.complete, List.mem_map]
    constructor
    · rintro (⟨rest, hrest, rfl⟩ | ⟨e', he', hrest⟩)
      · exact ⟨e, List.mem_cons_self, rest, rfl, (h.complete rest).mp hrest⟩
      · exact ⟨e', List.mem_cons_of_mem _ he', hrest⟩
    · rintro ⟨e', he', rest, rfl, hleaf⟩
      rcases List.mem_cons.mp he' with rfl | he'
      · exact Or.inl ⟨rest, (h.complete rest).mpr hleaf, rfl⟩
      · exact Or.inr ⟨e', he', rest, rfl, hleaf⟩

namespace Harvest

theorem IsCut.exists_lists {leaf : Location → Prop} {refuses : Location → OsFault → Prop}
    {harvest : Harvest} (h : harvest.IsCut path leaf refuses) :
    ∃ found, Location.Lists found leaf := by
  cases h with
  | whole hfound => exact ⟨_, hfound⟩
  | cut hfound => exact ⟨_, hfound⟩

theorem IsCut.congr {leaf leaf' : Location → Prop} {refuses refuses' : Location → OsFault → Prop}
    {harvest : Harvest} (h : harvest.IsCut path leaf refuses)
    (hleaf : ∀ place, leaf' place ↔ leaf place)
    (hrefuses : ∀ place fault, refuses' place fault ↔ refuses place fault) :
    harvest.IsCut path leaf' refuses' := by
  obtain rfl : leaf' = leaf := funext fun place => propext (hleaf place)
  obtain rfl : refuses' = refuses :=
    funext fun place => funext fun fault => propext (hrefuses place fault)
  exact h

/-- The paths below an entry are paths below its directory. -/
theorem map_below_child (path : Path) (name : FileName) (found : List Location) :
    (found.map fun place => (path.child (decodeName name)).below (Location.shown place)) =
      (found.map (name :: ·)).map fun place => path.below (Location.shown place) := by
  rw [List.map_map]
  refine List.map_congr_left fun place _ => ?_
  rw [Path.below_child]
  rfl

/-- The harvest of an entry, and then those of the entries of greater names. -/
theorem IsCut.andThen {first rest : Harvest}
    (hfirst : ∀ e' ∈ entries, decodeName e.1 < decodeName e'.1)
    (h : first.IsCut (path.child (decodeName e.1)) (leaf e) (refuses e))
    (hrest : rest.IsCut path (Node.InEntry entries leaf)
      fun place fault => Node.InEntry entries (fun e rest => refuses e rest fault) place) :
    (first.andThen rest).IsCut path (Node.InEntry (e :: entries) leaf)
      fun place fault => Node.InEntry (e :: entries) (fun e rest => refuses e rest fault) place := by
  cases h with
  | cut hfound hrefuses hleast hbefore hafter =>
    -- The walk is ended below the entry; all that comes later comes after that.
    obtain ⟨later, hlater⟩ := hrest.exists_lists
    have hlists := hfound.cons hfirst hlater
    rw [List.map_append, List.append_assoc] at hlists
    show IsCut _ _ _ ⟨_, _⟩
    rw [map_below_child]
    refine .cut hlists ⟨e, List.mem_cons_self, _, rfl, hrefuses⟩ ?_ ?_ ?_
    · rintro _ other ⟨e', he', rest', rfl, hother⟩
      rcases List.mem_cons.mp he' with rfl | he'
      · exact List.cons_le_cons_iff.mpr (Or.inr ⟨rfl, hleast rest' other hother⟩)
      · have hbehind : Node.InEntry entries (fun e rest => refuses e rest other) (e'.1 :: rest') :=
          ⟨e', he', rest', rfl, hother⟩
        exact Std.le_of_lt (hbehind.lt hfirst _)
    · intro place hplace
      obtain ⟨rest', hrest', rfl⟩ := List.mem_map.mp hplace
      exact List.cons_lt_cons_iff.mpr (Or.inr ⟨rfl, hbefore rest' hrest'⟩)
    · intro place hplace
      rcases List.mem_append.mp hplace with hplace | hplace
      · obtain ⟨rest', hrest', rfl⟩ := List.mem_map.mp hplace
        exact List.cons_le_cons_iff.mpr (Or.inr ⟨rfl, hafter rest' hrest'⟩)
      · exact Std.le_of_lt (((hlater.complete place).mp hplace).lt hfirst _)
  | whole hfound hnone =>
    have hlater : ∀ {place fault}, Node.InEntry (e :: entries) (fun e rest => refuses e rest fault)
        place → Node.InEntry entries (fun e rest => refuses e rest fault) place := by
      rintro place fault ⟨e', he', rest', rfl, hrefuses⟩
      rcases List.mem_cons.mp he' with rfl | he'
      · exact absurd hrefuses (hnone rest' fault)
      · exact ⟨e', he', rest', rfl, hrefuses⟩
    cases hrest with
    | whole hothers hothersNone =>
      have hlists := hfound.cons hfirst hothers
      show IsCut _ _ _ ⟨_ ++ _, _⟩
      rw [map_below_child, ← List.map_append]
      exact .whole hlists fun place fault hrefuses => hothersNone place fault (hlater hrefuses)
    | cut hothers hrefuses hleast hbefore hafter =>
      have hlists := hfound.cons hfirst hothers
      rw [← List.append_assoc] at hlists
      obtain ⟨e', he', rest', rfl, hother⟩ := hrefuses
      show IsCut _ _ _ ⟨_ ++ _, _⟩
      rw [map_below_child, ← List.map_append]
      refine .cut hlists ⟨e', List.mem_cons_of_mem _ he', rest', rfl, hother⟩
        (fun place other hrefuses => hleast place other (hlater hrefuses)) ?_ hafter
      intro place hplace
      rcases List.mem_append.mp hplace with hplace | hplace
      · obtain ⟨place, -, rfl⟩ := List.mem_map.mp hplace
        exact List.cons_lt_cons_iff.mpr (Or.inl (hfirst e' he'))
      · exact hbefore place hplace

/-- The harvests of entries in the order of their names, one after another. -/
theorem isCut_foldr {walk : FileName × Node → Harvest} :
    ∀ {entries : List (FileName × Node)},
      entries.Pairwise (fun a b => decodeName a.1 < decodeName b.1) →
      (∀ e ∈ entries, (walk e).IsCut (path.child (decodeName e.1)) (leaf e) (refuses e)) →
        ((entries.map walk).foldr Harvest.andThen empty).IsCut path (Node.InEntry entries leaf)
          fun place fault => Node.InEntry entries (fun e rest => refuses e rest fault) place
  | [], _, _ => by
    refine @IsCut.whole _ _ _ [] ⟨List.Pairwise.nil, fun place => ?_⟩ ?_
    · exact iff_of_false List.not_mem_nil fun ⟨e, he, _⟩ => List.not_mem_nil he
    · exact fun place fault ⟨e, he, _⟩ => List.not_mem_nil he
  | e :: entries, hsorted, hcut => by
    obtain ⟨hfirst, hsorted⟩ := List.pairwise_cons.mp hsorted
    obtain ⟨hwalk, hcut⟩ := List.forall_mem_cons.mp hcut
    exact hwalk.andThen hfirst (isCut_foldr hsorted hcut)

end Harvest

end

/-- Names that are used once are sorted strictly. -/
theorem pairwise_lt_byKey {entries : List (FileName × Node)} (h : (entries.map Prod.fst).Nodup) :
    (byKey (fun e : FileName × Node => decodeName e.1) entries).Pairwise
      fun a b => decodeName a.1 < decodeName b.1 := by
  have hshown : (entries.map fun e => decodeName e.1).Nodup := by
    have hmap := h.map Text.Utf8.decodeName_injective
    rwa [List.map_map] at hmap
  have hdistinct : (byKey (fun e : FileName × Node => decodeName e.1) entries).Pairwise
      fun a b => decodeName a.1 ≠ decodeName b.1 :=
    List.pairwise_map.mp (((byKey_perm entries).map _).nodup_iff.mpr hshown)
  exact (pairwise_byKey entries).imp₂ (fun _ _ hle hne => Std.lt_of_le_of_ne hle hne) hdistinct

namespace Node

variable {disk : Disk} {path : Path}

/-- A directory refuses by itself, or one below one of its entries does. -/
theorem refusesAt_directory {entries : List (FileName × Node)} (h : (entries.map Prod.fst).Nodup)
    {place : Location} {fault : OsFault} :
    (directory entries).RefusesAt disk path place fault ↔
      (place = [] ∧ disk.listingFault? path = some fault) ∨
        InEntry entries
          (fun e rest => e.2.RefusesAt disk (path.child (decodeName e.1)) rest fault) place := by
  constructor
  · rintro ⟨others, hat, hfault⟩
    cases place with
    | nil =>
      rw [Location.shown, List.map_nil, Path.below_nil] at hfault
      exact Or.inl ⟨rfl, hfault⟩
    | cons name rest =>
      rw [at?_cons] at hat
      obtain ⟨child, hchild, hat⟩ := Option.bind_eq_some_iff.mp hat
      refine Or.inr ⟨(name, child), (mem_entries_iff h).mp hchild, rest, rfl, others, hat, ?_⟩
      rw [Path.below_child]
      exact hfault
  · rintro (⟨rfl, hfault⟩ | ⟨e, he, rest, rfl, others, hat, hfault⟩)
    · refine ⟨entries, at?_nil _, ?_⟩
      rw [Location.shown, List.map_nil, Path.below_nil]
      exact hfault
    · rw [Path.below_child] at hfault
      exact ⟨others, (at?_directory_cons ((mem_entries_iff h).mpr he)).trans hat, hfault⟩

/-- What is not a directory is collected itself. -/
theorem isCut_leaf {node : Node} (h : node.isDirectory = false) :
    Harvest.IsCut path node.IsLeafAt (node.RefusesAt disk path) ⟨[path], none⟩ := by
  have hlists : Location.Lists [[]] node.IsLeafAt := by
    refine ⟨List.pairwise_singleton _ _, fun place => ?_⟩
    rw [List.mem_singleton, isLeafAt_of_not_directory h]
  have hnone : ∀ place fault, ¬ node.RefusesAt disk path place fault :=
    fun place fault ⟨entries, hat, _⟩ =>
      @forall_at?_leaf node h (fun _ _ => False) place entries hat
  have hwhole := @Harvest.IsCut.whole path _ _ _ hlists hnone
  rw [List.map_singleton, Location.shown, List.map_nil, Path.below_nil] at hwhole
  exact hwhole

mutual

/-- **A walk keeps what comes before the first refusal**: every leaf, each once, in order, up to the
first directory that refuses to be listed. -/
theorem isCut_walk (disk : Disk) (path : Path) : ∀ node : Node, node.HasDistinctNames →
    (node.walk disk path).IsCut path node.IsLeafAt (node.RefusesAt disk path)
  | .directory entries, hnames => by
    obtain ⟨hentries, hnames⟩ := hasDistinctNames_directory.mp hnames
    have hsort : ∀ e, e ∈ byKey (fun e : FileName × Node => decodeName e.1) entries ↔ e ∈ entries :=
      fun e => (byKey_perm entries).mem_iff
    have hcut := @Harvest.isCut_foldr path (fun e => e.2.IsLeafAt)
      (fun e => e.2.RefusesAt disk (path.child (decodeName e.1)))
      (fun e => walk disk (path.child (decodeName e.1)) e.2) _ (pairwise_lt_byKey hentries)
      fun e he =>
        isCut_walkEntries disk path entries e ((hsort e).mp he) (hnames e ((hsort e).mp he))
    have hleaf : ∀ place, (directory entries).IsLeafAt place ↔
        InEntry (byKey (fun e : FileName × Node => decodeName e.1) entries)
          (fun e => e.2.IsLeafAt) place := by
      intro place
      rw [isLeafAt_directory hentries]
      simp only [InEntry, hsort]
    have hbelow : ∀ place fault, (directory entries).RefusesAt disk path place fault ↔
        (place = [] ∧ disk.listingFault? path = some fault) ∨
          InEntry (byKey (fun e : FileName × Node => decodeName e.1) entries)
            (fun e rest => e.2.RefusesAt disk (path.child (decodeName e.1)) rest fault) place := by
      intro place fault
      rw [refusesAt_directory hentries]
      simp only [InEntry, hsort]
    rw [walk]
    cases hfault : disk.listingFault? path with
    | some fault =>
      -- The directory itself refuses, before anything below it is met.
      obtain ⟨found, hfound⟩ := hcut.exists_lists
      refine @Harvest.IsCut.cut path _ _ [] found [] fault ⟨hfound.ordered, fun place => ?_⟩
        ((hbelow [] fault).mpr (Or.inl ⟨rfl, hfault⟩)) (fun place _ _ => List.nil_le _)
        (fun _ h => absurd h List.not_mem_nil) fun place _ => List.nil_le _
      rw [List.nil_append, hfound.complete, hleaf]
    | none =>
      dsimp only
      rw [walkEntries_eq_map, Harvest.inOrder_map]
      refine hcut.congr hleaf fun place fault => ?_
      rw [hbelow, hfault]
      simp
  | .file content, _ => isCut_leaf rfl
  | .full, _ => isCut_leaf rfl
  | .link target, _ => isCut_leaf rfl

theorem isCut_walkEntries (disk : Disk) (path : Path) :
    ∀ entries : List (FileName × Node), ∀ e ∈ entries, e.2.HasDistinctNames →
      (e.2.walk disk (path.child (decodeName e.1))).IsCut (path.child (decodeName e.1))
        e.2.IsLeafAt (e.2.RefusesAt disk (path.child (decodeName e.1)))
  | [], _, he, _ => absurd he List.not_mem_nil
  | (name, node) :: entries, e, he, hnames => by
    rcases List.mem_cons.mp he with rfl | he
    · exact isCut_walk disk _ node hnames
    · exact isCut_walkEntries disk path entries e he hnames

end

end Node

/-! ## Complete harvests -/

/-- A harvest has all these places below a path and no others, each once, in the order of the names
on the way to them; and nothing has ended it. -/
def Harvest.IsComplete (harvest : Harvest) (path : Path) (leaf : Location → Prop) : Prop :=
  ∃ found : List Location,
    harvest = ⟨found.map fun place => path.below (Location.shown place), none⟩ ∧
      (found.map Location.shown).Pairwise (· < ·) ∧ ∀ place, place ∈ found ↔ leaf place

/-- **A walk collects what is below its root** if nothing refuses: every leaf and nothing else, each
once, in order. -/
theorem Node.isComplete_walk (disk : Disk) (path : Path) (node : Node)
    (hnames : node.HasDistinctNames) (hlist : node.IsListable disk path) :
    (node.walk disk path).IsComplete path node.IsLeafAt := by
  have hcut := isCut_walk disk path node hnames
  revert hcut
  generalize node.walk disk path = harvest
  rintro (⟨hfound, -⟩ | ⟨-, ⟨entries, hat, hfault⟩, -, -, -⟩)
  · exact ⟨_, rfl, hfound.ordered, hfound.complete⟩
  · rw [hlist _ entries hat] at hfault
    cases hfault

/-! ## The walk of a root -/

/-- **Exactly the right files, in order.** A root that is not a directory, or is a link to anything,
is collected itself. Otherwise, if no directory at or below it refuses to be listed, nothing is told
to have gone wrong and what is collected is everything below the root but directories, links among
it, each once and strictly ordered by the names from the root on, one name after another. -/
theorem Disk.collect_root {disk : Disk} {root : Path} {node : Node}
    (hroot : disk.node? false root = .ok node) :
    (node.isDirectory = false → disk.collect [root] = .ok ([root], [])) ∧
      (node.HasDistinctNames → node.IsListable disk root → ∃ found : List Location,
        disk.collect [root] =
            .ok (found.map fun place => root.below (Location.shown place), []) ∧
          (found.map Location.shown).Pairwise (· < ·) ∧
          ∀ place, place ∈ found ↔ node.IsLeafAt place) := by
  have hwalk : disk.walkRoot root = .ok (node.walk disk root) := by
    rw [walkRoot, hroot]
  constructor
  · intro hleaf
    have hself : node.walk disk root = ⟨[root], none⟩ := by
      cases node with
      | directory entries => cases hleaf
      | _ => rfl
    rw [collect, hwalk, hself]
    rfl
  · intro hnames hlist
    obtain ⟨found, hcomplete, hpairwise, hleaves⟩ := Node.isComplete_walk disk root node hnames hlist
    refine ⟨found, ?_, hpairwise, hleaves⟩
    rw [collect, hwalk, hcomplete]
    simp [collect]

namespace Harvest.Example

/-- A directory with files `b` and `a b`, a directory `a`, and a link to that directory; below `a` a
file `x` and a link to the directory that the link is in. -/
def logs : Node :=
  .directory [([0x62], .file []), ([0x61, 0x20, 0x62], .file []),
    ([0x61], .directory [([0x78], .file []), ([0x6C], .link [0x2E])]), ([0x6B], .link [0x61])]

/-- These directories below one that is called `w`. -/
def world : Disk :=
  ⟨.directory [([0x77], logs)], [], []⟩

end Harvest.Example

open Harvest.Example

/-- The link to the directory that it is in is collected, and the other one is not followed. -/
theorem Disk.collect_root_logs :
    world.node? false (Path.ofText "w") = .ok logs ∧ logs.HasDistinctNames ∧
      logs.IsListable world (Path.ofText "w") ∧
      (∃ found : List Location,
        world.collect [Path.ofText "w"] =
            .ok (found.map fun place => (Path.ofText "w").below (Location.shown place), []) ∧
          (found.map Location.shown).Pairwise (· < ·) ∧
          ∀ place, place ∈ found ↔ logs.IsLeafAt place) ∧
      logs.IsLeafAt [[0x61], [0x6C]] ∧ ¬ logs.IsLeafAt [[0x6B], [0x78]] := by
  have hroot : world.node? false (Path.ofText "w") = .ok logs := by rfl
  have hnames : logs.HasDistinctNames := by
    have hfile : (Node.file []).HasDistinctNames := Node.hasDistinctNames_leaf rfl
    have hlink : ∀ target, (Node.link target).HasDistinctNames :=
      fun _ => Node.hasDistinctNames_leaf rfl
    simp [logs, Node.hasDistinctNames_directory, hfile, hlink]
  have hlist : logs.IsListable world (Path.ofText "w") := by
    have hfile : ∀ path, (Node.file []).IsListable world path := fun _ => Node.isListable_leaf rfl
    have hlink : ∀ target path, (Node.link target).IsListable world path :=
      fun _ _ => Node.isListable_leaf rfl
    have hroot : world.listingFault? (Path.ofText "w") = none := by decide +kernel
    have hchild : world.listingFault? ((Path.ofText "w").child (decodeName [0x61])) = none := by
      decide +kernel
    simp [logs, Node.isListable_directory, hfile, hlink, hroot, hchild]
  have hlink : logs.at? [[0x6B], [0x78]] = none := by rfl
  refine ⟨hroot, hnames, hlist, (Disk.collect_root hroot).2 hnames hlist, ⟨_, rfl, rfl⟩, ?_⟩
  rintro ⟨leaf, hat, -⟩
  rw [hlink] at hat
  cases hat

end Diagnostics
