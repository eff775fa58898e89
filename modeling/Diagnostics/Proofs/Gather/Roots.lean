import Diagnostics.Proofs.Disk.Roots
import Diagnostics.Proofs.FanOut.Sequential
import Diagnostics.Proofs.Gather.Run

/-!
# What one bad root costs its group

A group of file trees lists what was collected from its roots and records an error for each walk that
was ended (`Group.settle_gather_roots`). Since roots are walked one after another and no walk knows
of another one, a root whose walk is ended costs what comes after the refusal below it and nothing
of the other roots.

That is so as far as the operating system refuses. The roots of a catalog are any texts, and one
with U+0000 in it, or with a surrogate that stands for no octet, is turned away before a system call
is made. This ends the gathering, and with it all that was collected for the group is dropped.
-/

set_option autoImplicit false

namespace Diagnostics

open Diagnostics.Action

/-! ## A group of roots on a session -/

theorem Session.recordAll_recordAll (s : Session) (failures more : List Failure) :
    (s.recordAll failures).recordAll more = s.recordAll (failures ++ more) := by
  simp [recordAll]

theorem Context.settle_reportAll (context : Context) : ∀ (errors : List TaskError) (s : Session),
    settle (context.reportAll errors) s =
      (.ok (), s.recordAll (errors.map (·.toFailure context.group none)))
  | [], s => by
    simp [reportAll, Session.recordAll]
  | e :: errors, s => by
    have hfirst : settle (context.report e none) s =
        (.ok (), s.recordAll [e.toFailure context.group none]) := rfl
    rw [reportAll, settle_bind, hfirst]
    dsimp only
    rw [context.settle_reportAll errors, Session.recordAll_recordAll]
    rfl

namespace Group

variable {group : Group} {roots paths : List Path} {errors : List TaskError} {s : Session}

theorem settle_gather_roots (hwork : group.work = .roots roots) (context : Context)
    (hcollect : s.host.disk.collect roots = .ok (paths, errors)) :
    settle (group.gather context) s =
      (.ok ⟨group.name, paths⟩, s.recordAll (errors.map (·.toFailure context.group none))) := by
  have hanswer : settle (Action.collect roots) s = (.ok (paths, errors), s) := by
    simp [Action.collect, Session.answer, hcollect, Except.mapError]
  unfold gather collectRoots
  rw [hwork]
  dsimp only
  rw [settle_bind, settle_bind, hanswer]
  dsimp only
  rw [settle_bind, Context.settle_reportAll]
  rfl

theorem settle_gather_roots_of_error (hwork : group.work = .roots roots) (context : Context)
    {e : DiskError} (hcollect : s.host.disk.collect roots = .error e) :
    settle (group.gather context) s = (.error e.toFault, s) := by
  have hanswer : settle (Action.collect roots) s = (.error e.toFault, s) := by
    simp [Action.collect, Session.answer, hcollect, Except.mapError]
  simp [gather, hwork, collectRoots, settle_bind, hanswer]

/-- A group of roots is gathered exactly if each of its roots has octets: recording the errors of
the walks cannot fail. -/
theorem exists_gather_roots_iff (hwork : group.work = .roots roots) (context : Context) :
    (∃ result, (settle (group.gather context) s).1 = .ok result) ↔
      ∀ root ∈ roots, root.HasOctets := by
  rw [← s.host.disk.exists_collect_iff]
  cases hcollect : s.host.disk.collect roots with
  | ok collected =>
    rw [settle_gather_roots hwork context hcollect]
    simp
  | error e =>
    rw [settle_gather_roots_of_error hwork context hcollect]
    simp

/-- What becomes of a group whose gathering has ended with a fault of the disk. -/
theorem settle_gatherRecorded_roots_of_error (hwork : group.work = .roots roots)
    (context : Context) {e : DiskError} (hcollect : s.host.disk.collect roots = .error e) :
    settle (group.gatherRecorded context) s = (.ok ⟨group.name, []⟩,
      s.recordAll [⟨group.name, group.name, .unexpected,
        group.name ++ ": " ++ e.toFault.message⟩]) := by
  have hgather := settle_gather_roots_of_error hwork (context.forGroup group.name) hcollect
  let j : Joined := ⟨group, [], .error e.toFault⟩
  rw [FanOut.settle_gatherRecorded (j := j) rfl (congrArg Prod.fst hgather).symm, hgather]
  rfl

/-- The same group with other roots. -/
def withRoots (group : Group) (roots : List Path) : Group :=
  { group with work := .roots roots }

/-- **What a bad root costs.** A group of roots is gathered exactly if each of its roots has octets.
Then a root whose walk is ended costs nothing of what the roots before it and the roots after it
come to by themselves: their artifacts are listed, around what was found below the bad root until
its walk ended, and their failures are recorded, around one traversal failure for the bad root. If
a root has no octets, the group has no artifacts, and one unexpected failure is recorded for all of
it. -/
theorem gather_around_bad_root (hwork : group.work = .roots roots) (context : Context)
    (s : Session) :
    ((∃ result, (settle (group.gather context) s).1 = .ok result) ↔
      ∀ root ∈ roots, root.HasOctets) ∧
    ((∀ root ∈ roots, root.HasOctets) → ∀ (before after : List Path) (bad : Path)
      (found : List Path) (fault : OsFault), roots = before ++ bad :: after →
      s.host.disk.walkRoot bad = .ok ⟨found, some fault⟩ →
        ∃ (first last : List Path) (failures others : List Failure),
          settle ((group.withRoots before).gather context) s =
            (.ok ⟨group.name, first⟩, s.recordAll failures) ∧
          settle ((group.withRoots after).gather context) s =
            (.ok ⟨group.name, last⟩, s.recordAll others) ∧
          settle (group.gather context) s =
            (.ok ⟨group.name, first ++ found ++ last⟩, s.recordAll (failures ++
              ⟨context.group, bad.text, .traversal, (TaskError.unreachable bad fault).message⟩ ::
                others))) ∧
    ((¬ ∀ root ∈ roots, root.HasOctets) → ∃ message : Text,
      settle (group.gatherRecorded context) s = (.ok ⟨group.name, []⟩,
        s.recordAll [⟨group.name, group.name, .unexpected, message⟩])) := by
  refine ⟨exists_gather_roots_iff hwork context,
    fun hoctets before after bad found fault hroots hwalk => ?_, fun hnot => ?_⟩
  · subst hroots
    rw [List.forall_mem_append, List.forall_mem_cons] at hoctets
    obtain ⟨hbefore, -, hafter⟩ := hoctets
    obtain ⟨⟨first, errors⟩, hfirst⟩ := s.host.disk.exists_collect_iff.mpr hbefore
    obtain ⟨⟨last, others⟩, hlast⟩ := s.host.disk.exists_collect_iff.mpr hafter
    have hall := Disk.collect_around hwalk hfirst hlast
    refine ⟨first, last, _, _, settle_gather_roots rfl context hfirst,
      settle_gather_roots rfl context hlast, ?_⟩
    rw [settle_gather_roots hwork context hall, List.map_append]
    rfl
  · rw [← s.host.disk.exists_collect_iff] at hnot
    cases hcollect : s.host.disk.collect roots with
    | ok collected => exact absurd ⟨collected, hcollect⟩ hnot
    | error e => exact ⟨_, settle_gatherRecorded_roots_of_error hwork context hcollect⟩

end Group

/-! ## A group of a catalog with a bad root -/

namespace Group.Example

/-- A catalog of one group with these roots. -/
def rootsCatalog (roots : List Text) : Json :=
  .object [("groups", .array [.object
    [("name", .text "Logs"), ("roots", .array (roots.map .text))]])]

def logsGroup (roots : List Text) : Group :=
  ⟨"Logs", false, .roots (roots.map Path.ofText)⟩

def logsContext : Context :=
  ⟨Path.ofText "s", .service, "Logs", 1, 0⟩

/-- A session on a machine with a file `w/x` and a file `v`. -/
def logsSession : Session :=
  ⟨GatherRun.Example.machine [] [([0x77], .directory [([0x78], .file [])]), ([0x76], .file [])]
    fun _ => none, []⟩

theorem walkRoot_directory : logsSession.host.disk.walkRoot (Path.ofText "w") =
    .ok ⟨[Path.ofText "w/x"], none⟩ := by
  have htop : logsSession.host.disk.listingFault? (Path.ofText "w") = none := by decide +kernel
  have hwalk : (Node.directory [([0x78], .file [])]).walk logsSession.host.disk (Path.ofText "w") =
      ⟨[Path.ofText "w/x"], none⟩ := by
    simp only [Node.walk, Node.walkEntries, htop]
    rw [Harvest.inOrder_of_pairwise (by decide)]
    rfl
  exact congrArg Except.ok hwalk

theorem walkRoot_file : logsSession.host.disk.walkRoot (Path.ofText "v") =
    .ok ⟨[Path.ofText "v"], none⟩ := by
  have hwalk : (Node.file []).walk logsSession.host.disk (Path.ofText "v") =
      ⟨[Path.ofText "v"], none⟩ := by
    simp only [Node.walk]
  exact congrArg Except.ok hwalk

end Group.Example

open Group.Example

/-- A root that is missing: the file below the root before it is listed, and so is the one after
it. -/
theorem Group.gather_around_missing_root :
    Catalog.parse (rootsCatalog ["w", "u", "v"]) = .ok [logsGroup ["w", "u", "v"]] ∧
      (∃ result, (settle ((logsGroup ["w", "u", "v"]).gather logsContext) logsSession).1 =
        .ok result) ∧
      ∃ (first last : List Path) (failures others : List Failure),
        settle ((logsGroup ["w"]).gather logsContext) logsSession =
          (.ok ⟨"Logs", first⟩, logsSession.recordAll failures) ∧
        settle ((logsGroup ["v"]).gather logsContext) logsSession =
          (.ok ⟨"Logs", last⟩, logsSession.recordAll others) ∧
        settle ((logsGroup ["w", "u", "v"]).gather logsContext) logsSession =
          (.ok ⟨"Logs", first ++ [] ++ last⟩, logsSession.recordAll (failures ++
            ⟨"Logs", "u", .traversal, "u: No such file or directory"⟩ :: others)) ∧
        first ++ last = [Path.ofText "w/x", Path.ofText "v"] := by
  have hgather := (logsGroup ["w", "u", "v"]).gather_around_bad_root rfl logsContext logsSession
  have hmissing : logsSession.host.disk.walkRoot (Path.ofText "u") =
      .ok ⟨[], some (.errno .noEntry (some "u"))⟩ := rfl
  have hcollect : logsSession.host.disk.collect
      [Path.ofText "w", Path.ofText "u", Path.ofText "v"] =
      .ok ([Path.ofText "w/x", Path.ofText "v"],
        [.unreachable (Path.ofText "u") (.errno .noEntry (some "u"))]) := by
    simp [Disk.collect, walkRoot_directory, hmissing, walkRoot_file]
  have hall := @settle_gather_roots (logsGroup ["w", "u", "v"]) _ _ _ _ rfl logsContext hcollect
  have hok := congrArg Prod.fst hall
  obtain ⟨first, last, failures, others, hfirst, hlast, hsplit⟩ :=
    hgather.2.1 (hgather.1.mp ⟨_, hok⟩) [Path.ofText "w"] [Path.ofText "v"] _ _ _ rfl hmissing
  refine ⟨rfl, ⟨_, hok⟩, first, last, failures, others, hfirst, hlast, hsplit, ?_⟩
  rw [hsplit] at hok
  have hartifacts := congrArg GroupResult.artifacts (Except.ok.inj hok)
  rwa [List.append_nil] at hartifacts

/-- A root of an accepted catalog with U+0000 in it: the gathering ends with a fault, and the group
has none of the artifacts that its other roots come to by themselves. -/
theorem Group.gather_drops_all_roots :
    Catalog.parse (rootsCatalog ["w", "a\x00b", "v"]) = .ok [logsGroup ["w", "a\x00b", "v"]] ∧
      (settle ((logsGroup ["w"]).gather logsContext) logsSession).1 =
        .ok ⟨"Logs", [Path.ofText "w/x"]⟩ ∧
      (settle ((logsGroup ["v"]).gather logsContext) logsSession).1 =
        .ok ⟨"Logs", [Path.ofText "v"]⟩ ∧
      (settle ((logsGroup ["w", "a\x00b", "v"]).gather logsContext) logsSession).1 =
        .error .embeddedNul ∧
      (settle ((logsGroup ["w", "a\x00b", "v"]).gatherRecorded logsContext) logsSession).1 =
        .ok ⟨"Logs", []⟩ := by
  have hunknown : logsSession.host.disk.walkRoot (Path.ofText "a\x00b") = .error .embeddedNul := rfl
  have hfirst : logsSession.host.disk.collect [Path.ofText "w"] = .ok ([Path.ofText "w/x"], []) := by
    simp [Disk.collect, walkRoot_directory]
  have hlast : logsSession.host.disk.collect [Path.ofText "v"] = .ok ([Path.ofText "v"], []) := by
    simp [Disk.collect, walkRoot_file]
  have hall : logsSession.host.disk.collect
      [Path.ofText "w", Path.ofText "a\x00b", Path.ofText "v"] = .error .embeddedNul := by
    simp [Disk.collect, walkRoot_directory, hunknown]
  have hgather : ∀ context : Context,
      settle ((logsGroup ["w", "a\x00b", "v"]).gather context) logsSession =
        (.error .embeddedNul, logsSession) :=
    fun context => settle_gather_roots_of_error rfl context hall
  refine ⟨rfl, congrArg Prod.fst (settle_gather_roots rfl _ hfirst),
    congrArg Prod.fst (settle_gather_roots rfl _ hlast), congrArg Prod.fst (hgather _), ?_⟩
  unfold gatherRecorded
  rw [settle_bind, settle_attempt, hgather]
  rfl

end Diagnostics
