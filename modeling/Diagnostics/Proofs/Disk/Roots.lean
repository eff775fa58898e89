import Diagnostics.Proofs.Disk.Harvest
import Diagnostics.Proofs.Disk.Reaching
import Mathlib.Data.List.Sort

/-!
# Collecting from many roots

Roots are walked one after another, and no walk knows of another one: what is collected are the
harvests of the roots in their order, with one error for each walk that was ended
(`Disk.collect_ok_iff`). So it is told root by root what is kept (`RootWalk.IsOn`). Of a root that
is not found that is nothing. Of any other root it is what comes before the first directory that
refuses to be listed, where a walk visits a directory before what is below it and goes by the names
on the way, which is to say in the lexicographic order of these names.

A root without octets is another matter. That is not seen by the operating system and therefore is
no refusal that ends one walk; it ends the collecting, and nothing is kept of any root.
-/

set_option autoImplicit false

namespace Diagnostics

open Text.Utf8 (decodeName)

/-! ## One root -/

/-- What the walk of a root has come to. -/
structure RootWalk where
  root : Path
  harvest : Harvest
  deriving DecidableEq, Repr

namespace RootWalk

/-- The error for a walk that was ended. -/
def error? (walk : RootWalk) : Option TaskError :=
  walk.harvest.fault.map (.unreachable walk.root)

/-- What walking a root on a disk comes to. -/
inductive IsOn (disk : Disk) : RootWalk → Prop
  /-- The root is missing or cannot be reached. -/
  | lost {root : Path} {fault : OsFault} : disk.node? false root = .error (.os fault) →
      IsOn disk ⟨root, [], some fault⟩
  /-- The files below the root, up to the first directory that refuses to be listed. -/
  | found {root : Path} {node : Node} {harvest : Harvest} : disk.node? false root = .ok node →
      harvest.IsCut root node.IsLeafAt (node.RefusesAt disk root) → IsOn disk ⟨root, harvest⟩

end RootWalk

section

variable {disk : Disk} {root : Path}

/-- What stands at a place has distinct names below it if all have. -/
theorem Node.HasDistinctNames.at? {top node : Node} (h : top.HasDistinctNames) {place : Location}
    (hat : top.at? place = some node) : node.HasDistinctNames := by
  intro below entries hbelow
  refine h (place ++ below) entries ?_
  rw [at?_append, hat, Option.bind_some, hbelow]

theorem Disk.exists_at?_of_node? {follow : Bool} {node : Node}
    (h : disk.node? follow root = .ok node) : ∃ place, disk.top.at? place = some node := by
  unfold node? at h
  split at h
  · cases h
  · cases h
  · rename_i place _
    split at h
    · rename_i hat
      exact ⟨place, hat.trans (congrArg some (Except.ok.inj h))⟩
    · cases h

/-- A root is walked, to the end or not, exactly if its path has octets. -/
theorem Disk.exists_walkRoot_iff :
    (∃ harvest, disk.walkRoot root = .ok harvest) ↔ root.HasOctets := by
  unfold walkRoot
  constructor
  · rintro ⟨harvest, hwalk⟩
    by_contra hnone
    obtain ⟨e, hne, hlocate⟩ := exists_locate_of_not_hasOctets hnone
    unfold node? at hwalk
    rw [hlocate] at hwalk
    cases e with
    | os fault => exact hne fault rfl
    | _ => cases hwalk
  · intro hoctets
    cases hnode : disk.node? false root with
    | ok node => exact ⟨_, rfl⟩
    | error e =>
      obtain ⟨fault, rfl⟩ := os_of_node? hoctets hnode
      exact ⟨_, rfl⟩

theorem RootWalk.isOn_of_walkRoot (hnames : disk.top.HasDistinctNames) {harvest : Harvest}
    (h : disk.walkRoot root = .ok harvest) : RootWalk.IsOn disk ⟨root, harvest⟩ := by
  unfold Disk.walkRoot at h
  split at h
  · rename_i node hnode
    cases h
    obtain ⟨place, hat⟩ := Disk.exists_at?_of_node? hnode
    exact .found hnode (node.isCut_walk disk root (hnames.at? hat))
  · rename_i hnode
    cases h
    exact .lost hnode
  · cases h

/-- The files of a root are those that are collected where nothing refuses to be listed. -/
theorem Disk.walkRoot_of_isListable {node : Node} {found : List Location}
    (hroot : disk.node? false root = .ok node) (hnames : node.HasDistinctNames)
    (hlist : node.IsListable disk root) (hfound : Location.Lists found node.IsLeafAt) :
    disk.walkRoot root = .ok ⟨found.map fun place => root.below (Location.shown place), none⟩ := by
  obtain ⟨others, hwalk, hordered, hcomplete⟩ := node.isComplete_walk disk root hnames hlist
  -- Two lists of the same places are one if both are in the strict order.
  have hsame : others = found := by
    have hirrefl : Std.Irrefl fun a b : Location => Location.shown a < Location.shown b :=
      ⟨fun _ => Std.lt_irrefl⟩
    have hantisymm : Std.Antisymm fun a b : Location => Location.shown a < Location.shown b :=
      ⟨fun _ _ hlt hgt => absurd (Std.lt_trans hlt hgt) Std.lt_irrefl⟩
    refine List.Pairwise.eq_of_mem_iff (List.pairwise_map.mp hordered)
      (List.pairwise_map.mp hfound.ordered) fun place => ?_
    rw [hcomplete, hfound.complete]
  unfold walkRoot
  rw [hroot]
  dsimp only
  rw [hwalk, hsame]

end

/-! ## All roots -/

namespace Disk

variable {disk : Disk}

/-- Collecting is walking each root. -/
theorem collect_ok_iff {roots paths : List Path} {errors : List TaskError} :
    disk.collect roots = .ok (paths, errors) ↔
      ∃ walks : List RootWalk, walks.map RootWalk.root = roots ∧
        (∀ walk ∈ walks, disk.walkRoot walk.root = .ok walk.harvest) ∧
        paths = walks.flatMap (·.harvest.paths) ∧ errors = walks.filterMap RootWalk.error? := by
  induction roots generalizing paths errors with
  | nil =>
    rw [collect]
    constructor
    · intro h
      cases h
      exact ⟨[], rfl, fun _ hwalk => absurd hwalk List.not_mem_nil, rfl, rfl⟩
    · rintro ⟨walks, hroots, -, rfl, rfl⟩
      obtain rfl := List.map_eq_nil_iff.mp hroots
      rfl
  | cons root roots ih =>
    have hcons : ∀ (walk : RootWalk) (walks : List RootWalk),
        (walk :: walks).filterMap RootWalk.error? =
          walk.error?.toList ++ walks.filterMap RootWalk.error? := by
      intro walk walks
      cases herror : walk.error? <;> simp [herror]
    rw [collect]
    constructor
    · intro h
      split at h
      · cases h
      · rename_i harvest hwalk
        split at h
        · cases h
        · rename_i later hlater
          cases h
          obtain ⟨walks, hroots, hwalks, hpaths, herrors⟩ := ih.mp hlater
          refine ⟨⟨root, harvest⟩ :: walks, congrArg (root :: ·) hroots,
            List.forall_mem_cons.mpr ⟨hwalk, hwalks⟩, ?_, ?_⟩
          · rw [List.flatMap_cons, hpaths]
          · rw [hcons, herrors]
            rfl
    · rintro ⟨all, hroots, hwalks, rfl, rfl⟩
      obtain ⟨walk, walks, rfl, rfl, rfl⟩ := List.map_eq_cons_iff.mp hroots
      obtain ⟨hwalk, hwalks⟩ := List.forall_mem_cons.mp hwalks
      rw [hwalk]
      dsimp only
      rw [ih.mpr ⟨walks, rfl, hwalks, rfl, rfl⟩, List.flatMap_cons, hcons]
      rfl

/-- Each error that is collected is about one of the roots. -/
theorem collect_errors {roots paths : List Path} {errors : List TaskError}
    (h : disk.collect roots = .ok (paths, errors)) :
    ∀ e ∈ errors, ∃ root ∈ roots, ∃ fault, e = .unreachable root fault := by
  obtain ⟨walks, rfl, -, -, rfl⟩ := collect_ok_iff.mp h
  intro e he
  obtain ⟨walk, hwalk, herror⟩ := List.mem_filterMap.mp he
  obtain ⟨fault, -, rfl⟩ := Option.map_eq_some_iff.mp herror
  exact ⟨walk.root, List.mem_map_of_mem hwalk, fault, rfl⟩

/-- What is collected from some roots and then from others. -/
theorem collect_append {roots others paths morePaths : List Path}
    {errors moreErrors : List TaskError} (h : disk.collect roots = .ok (paths, errors))
    (hothers : disk.collect others = .ok (morePaths, moreErrors)) :
    disk.collect (roots ++ others) = .ok (paths ++ morePaths, errors ++ moreErrors) := by
  obtain ⟨walks, rfl, hwalks, rfl, rfl⟩ := collect_ok_iff.mp h
  obtain ⟨more, rfl, hmore, rfl, rfl⟩ := collect_ok_iff.mp hothers
  refine collect_ok_iff.mpr ⟨walks ++ more, List.map_append, fun walk hwalk => ?_,
    List.flatMap_append.symm, List.filterMap_append.symm⟩
  exact (List.mem_append.mp hwalk).elim (hwalks walk) (hmore walk)

/-- What is collected around a root whose walk is ended. -/
theorem collect_around {before after first found last : List Path} {bad : Path} {fault : OsFault}
    {errors others : List TaskError} (hwalk : disk.walkRoot bad = .ok ⟨found, some fault⟩)
    (hfirst : disk.collect before = .ok (first, errors))
    (hlast : disk.collect after = .ok (last, others)) :
    disk.collect (before ++ bad :: after) =
      .ok (first ++ found ++ last, errors ++ .unreachable bad fault :: others) := by
  have hbad : disk.collect (bad :: after) =
      .ok (found ++ last, .unreachable bad fault :: others) := by
    rw [collect, hwalk]
    dsimp only
    rw [hlast]
    rfl
  rw [List.append_assoc]
  exact collect_append hfirst hbad

/-- Something is collected exactly if all roots have octets. -/
theorem exists_collect_iff {roots : List Path} :
    (∃ found, disk.collect roots = .ok found) ↔ ∀ root ∈ roots, root.HasOctets := by
  constructor
  · rintro ⟨⟨paths, errors⟩, hcollect⟩ root hroot
    obtain ⟨walks, rfl, hwalks, -, -⟩ := collect_ok_iff.mp hcollect
    obtain ⟨walk, hwalk, rfl⟩ := List.mem_map.mp hroot
    exact exists_walkRoot_iff.mp ⟨_, hwalks walk hwalk⟩
  · induction roots with
    | nil => exact fun _ => ⟨_, rfl⟩
    | cons root roots ih =>
      intro hoctets
      obtain ⟨hroot, hroots⟩ := List.forall_mem_cons.mp hoctets
      obtain ⟨harvest, hwalk⟩ := (@exists_walkRoot_iff disk root).mpr hroot
      obtain ⟨⟨paths, errors⟩, hcollect⟩ := ih hroots
      have hone : disk.collect [root] =
          .ok (harvest.paths, (harvest.fault.map (.unreachable root)).toList) := by
        rw [collect, hwalk]
        simp [collect]
      exact ⟨_, collect_append hone hcollect⟩

/-- **What is kept of ended walks.** Files are collected from all roots or from none, and from all
exactly if each of them has octets. If they have, what is collected are the harvests of the roots in
their order, and with them one error for each root whose walk was ended, in this order too: a root
that is not found gives nothing but its error; any other root gives all files below it if none of
its directories refuses to be listed, and otherwise the error, and the files that come before the
first directory that refuses. All files below a root are what is collected from it wherever it has
the same files and its directories can be listed. -/
theorem collect_keeps_before (hnames : disk.top.HasDistinctNames) (roots : List Path) :
    ((∃ found, disk.collect roots = .ok found) ↔ ∀ root ∈ roots, root.HasOctets) ∧
    (∀ paths errors, disk.collect roots = .ok (paths, errors) →
      ∃ walks : List RootWalk, walks.map RootWalk.root = roots ∧
        (∀ walk ∈ walks, walk.IsOn disk) ∧ paths = walks.flatMap (·.harvest.paths) ∧
        errors = walks.filterMap RootWalk.error?) ∧
    ∀ (other : Disk) (root : Path) (node : Node) (found : List Location),
      other.node? false root = .ok node → node.HasDistinctNames → node.IsListable other root →
        Location.Lists found node.IsLeafAt → other.collect [root] =
          .ok (found.map fun place => root.below (Location.shown place), []) := by
  refine ⟨exists_collect_iff, fun paths errors hcollect => ?_,
    fun other root node found hroot hdistinct hlist hfound => ?_⟩
  · obtain ⟨walks, hroots, hwalks, hpaths, herrors⟩ := collect_ok_iff.mp hcollect
    exact ⟨walks, hroots, fun walk hwalk => RootWalk.isOn_of_walkRoot hnames (hwalks walk hwalk),
      hpaths, herrors⟩
  · rw [collect, walkRoot_of_isListable hroot hdistinct hlist hfound]
    simp [collect]

end Disk

/-- Entries that are in the order of their names already are walked as they are stored. -/
theorem Harvest.inOrder_of_pairwise {entries : List (Text × Harvest)}
    (h : entries.Pairwise fun a b => a.1 ≤ b.1) :
    inOrder entries = (entries.map Prod.snd).foldr andThen empty := by
  unfold inOrder
  rw [List.mergeSort_of_pairwise (by simpa using h)]

namespace RootWalk.Example

/-- Directories `a` and `b` with a file in each, and a file `c`. -/
def logs : Node :=
  .directory [([0x61], .directory [([0x78], .file [])]), ([0x62], .directory [([0x79], .file [])]),
    ([0x63], .file [])]

/-- These below a directory `w`; its `b` is not to be read. -/
def barred : Disk :=
  ⟨.directory [([0x77], logs)], [], [("w/b", .permission)]⟩

theorem walkRoot_logs : barred.walkRoot (Path.ofText "w") =
    .ok ⟨[Path.ofText "w/a/x"], some (.errno .permission (some "w/b"))⟩ := by
  have htop : barred.listingFault? (Path.ofText "w") = none := by decide +kernel
  have ha : barred.listingFault? ((Path.ofText "w").child (decodeName [0x61])) = none := by
    decide +kernel
  have hb : barred.listingFault? ((Path.ofText "w").child (decodeName [0x62])) =
      some (.errno .permission (some "w/b")) := by
    decide +kernel
  have hwalk : logs.walk barred (Path.ofText "w") =
      ⟨[Path.ofText "w/a/x"], some (.errno .permission (some "w/b"))⟩ := by
    simp only [logs, Node.walk, Node.walkEntries, htop, ha, hb]
    rw [Harvest.inOrder_of_pairwise (by decide), Harvest.inOrder_of_pairwise (by decide)]
    rfl
  exact congrArg Except.ok hwalk

/-- A surrogate that stands for no octet. -/
def surrogate : Text :=
  [⟨0xD800, by decide⟩]

end RootWalk.Example

open RootWalk.Example

/-- The file after the directory that is not to be read is lost and the one before it is kept, and so
is what the roots after a missing one come to. -/
theorem Disk.collect_keeps_before_barred :
    barred.top.HasDistinctNames ∧
      (∀ root ∈ [Path.ofText "w", Path.ofText "v", Path.ofText "w"], root.HasOctets) ∧
      barred.collect [Path.ofText "w", Path.ofText "v", Path.ofText "w"] =
        .ok ([Path.ofText "w/a/x", Path.ofText "w/a/x"],
          [.unreachable (Path.ofText "w") (.errno .permission (some "w/b")),
            .unreachable (Path.ofText "v") (.errno .noEntry (some "v")),
            .unreachable (Path.ofText "w") (.errno .permission (some "w/b"))]) := by
  have hnames : barred.top.HasDistinctNames := by
    have hfile : (Node.file []).HasDistinctNames := Node.hasDistinctNames_leaf rfl
    simp [barred, logs, Node.hasDistinctNames_directory, hfile]
  have hmissing : barred.walkRoot (Path.ofText "v") =
      .ok ⟨[], some (.errno .noEntry (some "v"))⟩ := rfl
  have hcollect : barred.collect [Path.ofText "w", Path.ofText "v", Path.ofText "w"] =
      .ok ([Path.ofText "w/a/x", Path.ofText "w/a/x"],
        [.unreachable (Path.ofText "w") (.errno .permission (some "w/b")),
          .unreachable (Path.ofText "v") (.errno .noEntry (some "v")),
          .unreachable (Path.ofText "w") (.errno .permission (some "w/b"))]) := by
    simp [Disk.collect, walkRoot_logs, hmissing]
  exact ⟨hnames, (Disk.collect_keeps_before hnames _).1.mp ⟨_, hcollect⟩, hcollect⟩

/-- A surrogate in the second root, and no U+0000 in either: what is found below the first is not
collected. -/
theorem Disk.collect_loses_all :
    (∀ root ∈ [Path.ofText "w", Path.ofText surrogate], ∀ part ∈ root.parts,
        CodePoint.ofChar '\x00' ∉ part) ∧
      barred.collect [Path.ofText "w"] =
        .ok ([Path.ofText "w/a/x"],
          [.unreachable (Path.ofText "w") (.errno .permission (some "w/b"))]) ∧
      ¬ ∃ found, barred.collect [Path.ofText "w", Path.ofText surrogate] = .ok found := by
  have hunknown : barred.walkRoot (Path.ofText surrogate) =
      .error (.unencodable ⟨⟨0xD800, by decide⟩, 0, 1⟩) := rfl
  refine ⟨by decide, by simp [Disk.collect, walkRoot_logs], ?_⟩
  simp [Disk.collect, walkRoot_logs, hunknown]

end Diagnostics
