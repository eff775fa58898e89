import Diagnostics.Proofs.Disk.Reaching
import Diagnostics.Proofs.Gather.Run
import Diagnostics.Proofs.Report.Surrogates

/-!
# Requests that fail without the operating system

A request is refused for what it asks before anything is done: its settings, its catalog, a staging
path that has no octets. Once the staging directory was made no task can end the run, so what is
left to fail is the report. There a refusal comes from the operating system, unless the report tells
a text with a surrogate; that one is noticed when all programs have run
(`GatherRequest.rejected_requests_touch_nothing`).
-/

set_option autoImplicit false

namespace Diagnostics

open Diagnostics.Action Disk

/-- The report's file has octets wherever the staging directory has. -/
theorem Path.HasOctets.reportFile {staging : Path} (h : staging.HasOctets) :
    (staging.child RunReport.fileName).HasOctets :=
  h.child (by decide)

/-- Why a report was not written: a refusal of the operating system, or a surrogate in it. -/
theorem RunReport.write_error {report : RunReport} {path : Path} {d : Disk} {e : DiskError}
    (hoctets : path.HasOctets) (h : (report.write path d).1 = .error e) :
    (∃ fault, e = .os fault) ∨ report.HasSurrogate ∧ ∃ error, e = .unencodable error := by
  have hparent : path.parent.HasOctets := hoctets.of_parts_subset (List.dropLast_subset _)
  unfold write at h
  split at h
  · rename_i hmade
    cases h
    exact Or.inl (os_of_ensureParts _ _ (by rwa [List.reverse_reverse]) hmade)
  · split at h
    · rename_i hopened
      cases h
      exact Or.inl (os_of_openForWriting hoctets hopened)
    · split at h
      · rename_i hencode
        cases h
        refine Or.inr ⟨?_, _, rfl⟩
        by_contra hclean
        obtain ⟨octets, hok⟩ := exists_encode_document_iff.mpr hclean
        rw [hencode] at hok
        cases hok
      · dsimp only at h
        split at h
        · cases h
        · cases h
          exact Or.inl ⟨_, rfl⟩

section

variable {env : Environment} {backend : Option Backend} {request : GatherRequest} {host : Host}

/-- A run has come to its end, and then its report was refused for a surrogate. -/
structure GatherRun.RefusesReport (run : GatherRun env backend request host) (fault : GatherFault)
    (left : Host) : Prop where
  surrogate : run.ended.report.HasSurrogate
  unencodable : ∃ error, fault = .run (.unencodable error)
  left_eq : left = run.outcome.2

/-- Why a run ends with a fault. -/
theorem GatherRun.fault_of_outcome (run : GatherRun env backend request host) {fault : Fault}
    (h : run.outcome.1 = .error fault) :
    (∃ refusal, fault = .os refusal) ∨
      run.ended.report.HasSurrogate ∧ ∃ error, fault = .unencodable error := by
  have hoctets := hasOctets_of_ensureDirectories run.ensureDirectories_staging
  unfold outcome Settings.conclude at h
  dsimp only at h
  cases hwrite : (run.ended.report.write (run.settings.staging.child RunReport.fileName)
    run.ended.session.host.disk).1 with
  | ok _ =>
    rw [hwrite] at h
    cases h
  | error e =>
    rw [hwrite] at h
    cases h
    rcases RunReport.write_error hoctets.reportFile hwrite with
      ⟨refusal, rfl⟩ | ⟨hsurrogate, error, rfl⟩
    · exact Or.inl ⟨refusal, rfl⟩
    · exact Or.inr ⟨hsurrogate, error, rfl⟩

end

namespace GatherRequest

/-- **Rejected requests touch nothing.** Whatever the schedule, and so for what `gather` does: if a
request ends with a fault that is none of the operating system, then the machine is left as it was,
or the report of a run tells a surrogate and was refused for that. -/
theorem rejected_requests_touch_nothing (env : Environment) (backend : Option Backend)
    (request : GatherRequest) (host : Host) :
    request.CanEnd env backend host (gather env backend request host) ∧
      ∀ (fault : GatherFault) (left : Host),
        request.CanEnd env backend host (.error fault, left) →
          (∀ refusal, fault ≠ .run (.os refusal)) →
            left = host ∨
              ∃ run : GatherRun env backend request host, run.RefusesReport fault left := by
  refine ⟨gather_canEnd env backend request host, fun fault left hend hnot => ?_⟩
  generalize hended : ((.error fault, left) : Except GatherFault GatherResult × Host) = ended at hend
  cases hend with
  | refused hplan =>
    cases hended
    exact Or.inl rfl
  | unstaged hplan hmade =>
    cases hended
    rcases os_of_ensureDirectories hmade with ⟨refusal, rfl⟩ | rfl
    · exact absurd rfl (hnot refusal)
    · exact Or.inl rfl
  | ran run =>
    obtain ⟨houtcome, rfl⟩ := Prod.mk.inj hended
    cases hrun : run.outcome.1 with
    | ok result =>
      rw [hrun] at houtcome
      cases houtcome
    | error ending =>
      rw [hrun] at houtcome
      cases houtcome
      rcases run.fault_of_outcome hrun with ⟨refusal, rfl⟩ | ⟨hsurrogate, error, rfl⟩
      · exact absurd rfl (hnot refusal)
      · exact Or.inr ⟨run, ⟨hsurrogate, ⟨error, rfl⟩, rfl⟩⟩

end GatherRequest

namespace GatherRun.Example

/-- A catalog with two groups of one name. -/
def repeating : Host :=
  machine (catalog [("A", [task "process" (program "one" "a")]), ("A", [])]) [] (printing "one" 0x31)

/-- The name of the one group is written as the escape of a surrogate. -/
def unnameable : Host :=
  machine ((catalog [("q", [task "process" (program "one" "a")])]).flatMap fun octet =>
    if octet = 0x71 then [0x5C, 0x75, 0x64, 0x38, 0x30, 0x30] else [octet]) []
    (printing "one" 0x31)

end GatherRun.Example

namespace GatherRequest

open GatherRun.Example

/-- A catalog is refused for a repeated name before any program is started. -/
theorem rejected_requests_touch_nothing_repeated :
    (gather (fun _ => none) none (request "s") repeating).1 =
        .error (.catalog (.rejected (.duplicateGroup "A"))) ∧
      (gather (fun _ => none) none (request "s") repeating).2 = repeating := by
  have hrefused : (gather (fun _ => none) none (request "s") repeating).1 =
      .error (.catalog (.rejected (.duplicateGroup "A"))) := by
    decide +kernel
  refine ⟨hrefused, ?_⟩
  obtain ⟨hend, huntouched⟩ :=
    rejected_requests_touch_nothing (fun _ => none) none (request "s") repeating
  rw [← Prod.mk.eta (p := gather _ _ _ _), hrefused] at hend
  rcases huntouched _ _ hend nofun with hleft | ⟨run, hrefuses⟩
  · exact hleft
  · obtain ⟨error, hfault⟩ := hrefuses.unencodable
    cases hfault

/-- The report is refused for its surrogate, when the program has run and its artifact is there. -/
theorem refused_after_run :
    (gather (fun _ => none) none (request "s") unnameable).1 =
        .error (.run (.unencodable ⟨⟨0xD800, by decide⟩, 99, 1⟩)) ∧
      (gather (fun _ => none) none (request "s") unnameable).2.calls ≠ unnameable.calls ∧
      fileAt (gather (fun _ => none) none (request "s") unnameable).2.disk [[0x73], [0x61]] =
        some [0x31] ∧
      fileAt unnameable.disk [[0x73], [0x61]] = none := by
  decide +kernel

end GatherRequest

end Diagnostics
