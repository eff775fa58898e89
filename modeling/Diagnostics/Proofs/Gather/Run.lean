import Diagnostics.Gather
import Diagnostics.Proofs.Catalog.Unique
import Diagnostics.Proofs.FanOut.Sequential
import Diagnostics.Proofs.Settings
import Diagnostics.Proofs.Territory

/-!
# Gathering runs

A request is first a plan: settings that are in range, and the groups of a catalog. Nothing has been
done by then, and a request without a plan does nothing at all. A `GatherRun` is what follows: the
staging directory is made, the selected groups run by any schedule until all are joined, and the
report is written.

`gather` takes the groups one after another, which is one of the schedules. So what is proved of
every way in which a request can end holds of what `gather` does (`gather_canEnd`), and what is
proved of every `GatherRun` of what it returns (`exists_gatherRun`).
-/

set_option autoImplicit false

namespace Diagnostics

open Diagnostics.Action

/-- What a request amounts to before anything is done, or why it comes to nothing. -/
def GatherRequest.plan (request : GatherRequest) (env : Environment) (disk : Disk) :
    Except GatherFault (Settings × List Group) :=
  match request.settings env with
  | .error e => .error (.settings e)
  | .ok settings =>
    match settings.validate with
    | .error e => .error (.settings e)
    | .ok () =>
      match settings.catalog with
      | none => .error (.settings .catalogRequired)
      | some path =>
        match Catalog.load disk path with
        | .error fault => .error (.catalog fault)
        | .ok groups => .ok (settings, groups)

namespace Settings

/-- The groups of a catalog that take part in a run. -/
def selected (s : Settings) (groups : List Group) : List Group :=
  selectedGroups (overrideDwell s.traceDwell groups) s.includeTrace

/-- How many workers may be at work at once: as many as there are groups, if nothing is said. -/
def workerLimit (s : Settings) (groups : List Group) : Nat :=
  match s.maxWorkers with
  | some count => count.toNat
  | none => (s.selected groups).length

/-- The end of a run: its report is written to the staging directory. -/
def conclude (s : Settings) (strict : Bool) (report : RunReport) (host : Host) :
    Except Fault GatherResult × Host :=
  let path := s.staging.child RunReport.fileName
  let result : GatherResult :=
    { lines := report.lines ++ ["Report: " ++ path.text]
      success := !(strict && !report.failures.isEmpty)
      report := report }
  let (written, disk) := report.write path host.disk
  ((written.mapError DiskError.toFault).map fun () => result, { host with disk := disk })

end Settings

/-- A run of a request that has a plan and gets its staging directory, by one of the schedules. -/
structure GatherRun (env : Environment) (backend : Option Backend) (request : GatherRequest)
    (host : Host) where
  settings : Settings
  groups : List Group
  planned : request.plan env host.disk = .ok (settings, groups)
  /-- The session once the staging directory was made. -/
  begun : Session
  made : (ensureDirectories settings.staging).settle ⟨host, []⟩ = (.ok (), begun)
  /-- The moment at which the last worker has been joined. -/
  ended : FanOut
  steps : FanOut.Steps (settings.context backend) (settings.workerLimit groups)
    (FanOut.initial (settings.selected groups) begun) ended
  joined : ended.workers = []

namespace GatherRun

variable {env : Environment} {backend : Option Backend} {request : GatherRequest} {host : Host}

def context (run : GatherRun env backend request host) : Context :=
  run.settings.context backend

def selected (run : GatherRun env backend request host) : List Group :=
  run.settings.selected run.groups

/-- What a run returns, and the machine that it leaves. -/
def outcome (run : GatherRun env backend request host) : Except Fault GatherResult × Host :=
  run.settings.conclude request.strict run.ended.report run.ended.session.host

/-- A run goes through a moment between the making of its workers and the joining of the last. -/
def Passes (run : GatherRun env backend request host) (f : FanOut) : Prop :=
  FanOut.Steps run.context (run.settings.workerLimit run.groups)
      (FanOut.initial run.selected run.begun) f ∧
    FanOut.Steps run.context (run.settings.workerLimit run.groups) f run.ended

end GatherRun

/-! ## What `gather` returns is what a run returns -/

section

variable {env : Environment} {backend : Option Backend} {request : GatherRequest} {host : Host}

theorem gather_eq (env : Environment) (backend : Option Backend) (request : GatherRequest)
    (host : Host) :
    gather env backend request host =
      match request.plan env host.disk with
      | .error fault => (.error fault, host)
      | .ok (settings, groups) =>
        ((gatherGroupsWith settings backend request.strict groups host).1.mapError GatherFault.run,
          (gatherGroupsWith settings backend request.strict groups host).2) := by
  unfold gather GatherRequest.plan
  cases request.settings env with
  | error e => rfl
  | ok settings =>
    dsimp only
    cases settings.validate with
    | error e => rfl
    | ok _ =>
      dsimp only
      cases settings.catalog with
      | none => rfl
      | some path =>
        dsimp only
        cases Catalog.load host.disk path <;> rfl

theorem gatherGroupsWith_eq (settings : Settings) (backend : Option Backend) (strict : Bool)
    (groups : List Group) (host : Host) :
    gatherGroupsWith settings backend strict groups host =
      match (orchestrate (overrideDwell settings.traceDwell groups) (settings.context backend)
        settings.includeTrace settings.maxWorkers).settle ⟨host, []⟩ with
      | (.error fault, s) => (.error fault, s.host)
      | (.ok report, s) => settings.conclude strict report s.host := rfl

/-- A run returns exactly if its report is written, and what it returns is made of that report. -/
theorem Settings.conclude_ok_iff {settings : Settings} {strict : Bool} {report : RunReport}
    {host left : Host} {result : GatherResult} :
    settings.conclude strict report host = (.ok result, left) ↔
      (report.write (settings.staging.child RunReport.fileName) host.disk).1 = .ok () ∧
        left = { host with
          disk := (report.write (settings.staging.child RunReport.fileName) host.disk).2 } ∧
        result =
          { lines := report.lines ++
              ["Report: " ++ (settings.staging.child RunReport.fileName).text]
            success := !(strict && !report.failures.isEmpty)
            report := report } := by
  unfold conclude
  dsimp only
  rw [Prod.mk.injEq]
  cases (report.write (settings.staging.child RunReport.fileName) host.disk).1 with
  | error e => simp [Except.mapError, Except.map]
  | ok _ => simp [Except.mapError, Except.map, eq_comm, and_comm]

/-- What a plan has passed. -/
theorem GatherRequest.plan_ok {disk : Disk} {settings : Settings} {groups : List Group}
    (h : request.plan env disk = .ok (settings, groups)) :
    request.settings env = .ok settings ∧ settings.validate = .ok () ∧
      ∃ path, Catalog.load disk path = .ok groups := by
  unfold GatherRequest.plan at h
  cases hsettings : request.settings env with
  | error e =>
    rw [hsettings] at h
    cases h
  | ok s =>
    rw [hsettings] at h
    dsimp only at h
    cases hvalid : s.validate with
    | error e =>
      rw [hvalid] at h
      cases h
    | ok _ =>
      rw [hvalid] at h
      dsimp only at h
      cases hcatalog : s.catalog with
      | none =>
        rw [hcatalog] at h
        cases h
      | some path =>
        rw [hcatalog] at h
        dsimp only at h
        cases hload : Catalog.load disk path with
        | error fault =>
          rw [hload] at h
          cases h
        | ok loaded =>
          rw [hload] at h
          cases h
          exact ⟨rfl, hvalid, path, hload⟩

/-- A staging directory that is given goes before the environment's. -/
theorem GatherRequest.settings_staging {path : Path} {settings : Settings}
    (hgiven : request.staging = some path) (h : request.settings env = .ok settings) :
    settings.staging = path := by
  unfold GatherRequest.settings at h
  obtain ⟨s, hs, h⟩ := Catalog.bind_ok_iff.mp h
  cases h
  show s.staging = path
  rw [(Settings.ofEnv_ok_iff.mp hs).staging, hgiven]
  rfl

theorem GatherRun.staging_eq (run : GatherRun env backend request host) {path : Path}
    (hgiven : request.staging = some path) : run.settings.staging = path :=
  GatherRequest.settings_staging hgiven (GatherRequest.plan_ok run.planned).1

theorem Settings.not_any_neg_of_validate {settings : Settings} (h : settings.validate = .ok ()) :
    settings.maxWorkers.any (· < 0) = false := by
  cases hcount : settings.maxWorkers with
  | none => rfl
  | some count =>
    have hone := (validate_ok_iff.mp h).maxWorkers count hcount
    exact decide_eq_false (by omega)

theorem Settings.workerLimit_pos {settings : Settings} {groups : List Group}
    (h : settings.validate = .ok ()) (hselected : settings.selected groups ≠ []) :
    0 < settings.workerLimit groups := by
  unfold workerLimit
  cases hcount : settings.maxWorkers with
  | none => exact List.length_pos_iff.mpr hselected
  | some count =>
    have hone := (validate_ok_iff.mp h).maxWorkers count hcount
    dsimp only
    omega

/-- The groups of a run are those of an accepted catalog. -/
theorem GatherRun.selected_ok (run : GatherRun env backend request host) :
    (∀ group ∈ run.selected, group.IsCatalogued) ∧ (run.selected.map Group.name).Nodup ∧
      (run.selected.flatMap Group.outputs).Nodup := by
  obtain ⟨-, -, path, hload⟩ := GatherRequest.plan_ok run.planned
  obtain ⟨document, hparse⟩ := Catalog.load_ok hload
  exact selectedGroups_ok hparse run.settings.traceDwell run.settings.includeTrace

/-- What is selected depends on the plan alone. -/
theorem GatherRun.selected_eq (run : GatherRun env backend request host) {selected : List Group}
    (h : (request.plan env host.disk).toOption.map (fun plan => plan.1.selected plan.2) =
      some selected) : run.selected = selected := by
  rw [run.planned] at h
  exact Option.some.inj h

/-- How a request can end, whatever the schedule: it has no plan, or its staging directory cannot be
made, or there is a run to the end. -/
inductive GatherRequest.CanEnd (env : Environment) (backend : Option Backend)
    (request : GatherRequest) (host : Host) : Except GatherFault GatherResult × Host → Prop
  | refused {fault : GatherFault} :
      request.plan env host.disk = .error fault → CanEnd env backend request host (.error fault, host)
  /-- What was made before the refusal is left. -/
  | unstaged {settings : Settings} {groups : List Group} {e : DiskError} {disk : Disk} :
      request.plan env host.disk = .ok (settings, groups) →
      host.disk.ensureDirectories settings.staging = (.error e, disk) →
      CanEnd env backend request host (.error (.run e.toFault), { host with disk := disk })
  | ran (run : GatherRun env backend request host) :
      CanEnd env backend request host (run.outcome.1.mapError .run, run.outcome.2)

theorem ensureDirectories_settle (path : Path) (s : Session) :
    (ensureDirectories path).settle s =
      ((s.host.disk.ensureDirectories path).1.mapError DiskError.toFault,
        s.withDisk (s.host.disk.ensureDirectories path).2) := rfl

/-- The staging directory of a run was made, and that is all that was done before it began. -/
theorem GatherRun.ensureDirectories_staging (run : GatherRun env backend request host) :
    host.disk.ensureDirectories run.settings.staging = (.ok (), run.begun.host.disk) := by
  have hmade := run.made
  rw [ensureDirectories_settle] at hmade
  rcases hdisk : host.disk.ensureDirectories run.settings.staging with ⟨e | _, disk⟩
  · rw [hdisk] at hmade
    cases hmade
  · rw [hdisk] at hmade
    rw [← (Prod.mk.inj hmade).2]
    rfl

/-- A plan that gets its staging directory is run to the end, and what `orchestrate` reports is what
that run does. -/
theorem exists_gatherRun_of_plan {settings : Settings} {groups : List Group} {disk : Disk}
    (hplan : request.plan env host.disk = .ok (settings, groups))
    (hdisk : host.disk.ensureDirectories settings.staging = (.ok (), disk)) :
    ∃ run : GatherRun env backend request host, run.settings = settings ∧
      (orchestrate (overrideDwell settings.traceDwell groups) (settings.context backend)
        settings.includeTrace settings.maxWorkers).settle ⟨host, []⟩ =
          (.ok run.ended.report, run.ended.session) := by
  obtain ⟨-, hvalid, -⟩ := GatherRequest.plan_ok hplan
  have hmade := ensureDirectories_settle settings.staging ⟨host, []⟩
  rw [hdisk] at hmade
  obtain ⟨ended, hsteps, hjoined, hsettle⟩ :=
    @FanOut.exists_complete_of_orchestrate (settings.context backend) _ _ _ _ _ _
      (Settings.workerLimit_pos hvalid) (Settings.not_any_neg_of_validate hvalid) hmade
  exact ⟨⟨settings, groups, hplan, _, hmade, ended, hsteps, hjoined⟩, rfl, hsettle⟩

/-- **What `gather` does is one of the ways in which the request can end.** -/
theorem gather_canEnd (env : Environment) (backend : Option Backend) (request : GatherRequest)
    (host : Host) : request.CanEnd env backend host (gather env backend request host) := by
  rw [gather_eq]
  cases hplan : request.plan env host.disk with
  | error fault => exact .refused hplan
  | ok plan =>
    obtain ⟨settings, groups⟩ := plan
    dsimp only
    rw [gatherGroupsWith_eq]
    rcases hdisk : host.disk.ensureDirectories settings.staging with ⟨e | _, disk⟩
    · have hmade := ensureDirectories_settle settings.staging ⟨host, []⟩
      rw [hdisk] at hmade
      rw [FanOut.settle_orchestrate_of_error hmade]
      exact .unstaged hplan hdisk
    · obtain ⟨run, rfl, hsettle⟩ := @exists_gatherRun_of_plan _ backend _ _ _ _ _ hplan hdisk
      rw [hsettle]
      exact .ran run

/-- A request that returns has been run. -/
theorem GatherRequest.CanEnd.exists_gatherRun {result : GatherResult} {left : Host}
    (h : request.CanEnd env backend host (.ok result, left)) :
    ∃ run : GatherRun env backend request host, run.outcome = (.ok result, left) := by
  generalize hended : (Except.ok result, left) = ended at h
  cases h with
  | refused hplan => cases hended
  | unstaged hplan hmade => cases hended
  | ran run =>
    refine ⟨run, ?_⟩
    generalize run.outcome = outcome at hended
    obtain ⟨_ | _, machine⟩ := outcome
    · cases hended
    · cases hended
      rfl

/-- What `gather` returns is what one of the runs returns, and so is the machine that it leaves. -/
theorem exists_gatherRun {result : GatherResult} {left : Host}
    (h : gather env backend request host = (.ok result, left)) :
    ∃ run : GatherRun env backend request host, run.outcome = (.ok result, left) := by
  have hend := gather_canEnd env backend request host
  rw [h] at hend
  exact hend.exists_gatherRun

theorem exists_gatherRun_of_isOk (h : (gather env backend request host).1.isOk = true) :
    ∃ (run : GatherRun env backend request host) (result : GatherResult),
      (gather env backend request host).1 = .ok result ∧ run.outcome.1 = .ok result ∧
        run.outcome.2 = (gather env backend request host).2 := by
  generalize hgather : gather env backend request host = gathered at h
  obtain ⟨outcome, left⟩ := gathered
  cases outcome with
  | error fault => cases h
  | ok result =>
    obtain ⟨run, hrun⟩ := exists_gatherRun hgather
    exact ⟨run, result, rfl, congrArg Prod.fst hrun, congrArg Prod.snd hrun⟩

/-- What a request reports when its groups take turns as they are given, whether or not the report
can be written. -/
def GatherRequest.report? (request : GatherRequest) (env : Environment) (backend : Option Backend)
    (host : Host) : Option RunReport :=
  match request.plan env host.disk with
  | .error _ => none
  | .ok (settings, groups) =>
    let work := orchestrate (overrideDwell settings.traceDwell groups) (settings.context backend)
      settings.includeTrace settings.maxWorkers
    (work.settle ⟨host, []⟩).1.toOption

theorem exists_gatherRun_of_report {report : RunReport}
    (h : request.report? env backend host = some report) :
    ∃ run : GatherRun env backend request host, run.ended.report = report := by
  unfold GatherRequest.report? at h
  cases hplan : request.plan env host.disk with
  | error fault =>
    rw [hplan] at h
    cases h
  | ok plan =>
    obtain ⟨settings, groups⟩ := plan
    rw [hplan] at h
    dsimp only at h
    rcases hdisk : host.disk.ensureDirectories settings.staging with ⟨e | _, disk⟩
    · have hmade := ensureDirectories_settle settings.staging ⟨host, []⟩
      rw [hdisk] at hmade
      rw [FanOut.settle_orchestrate_of_error hmade] at h
      cases h
    · obtain ⟨run, -, hsettle⟩ := @exists_gatherRun_of_plan _ backend _ _ _ _ _ hplan hdisk
      rw [hsettle] at h
      exact ⟨run, Option.some.inj h⟩

end

/-! ## Small machines with a catalog -/

namespace GatherRun.Example

/-- The octets of a catalog of groups, each with a name and its tasks. -/
def catalog (groups : List (Text × List Json)) : List UInt8 :=
  let document : Json := .object [("groups", .array (groups.map fun group =>
    .object [("name", .text group.1), ("tasks", .array group.2)]))]
  match Text.Utf8.encode document.write with
  | .ok octets => octets
  | .error _ => []

def task (kind : Text) (fields : List (Text × Json)) : Json :=
  .object (("type", .text kind) :: fields)

/-- The fields of a program without arguments. -/
def program (executable output : Text) : List (Text × Json) :=
  [("executable", .text executable), ("output", .text output)]

def catalogName : FileName := [0x63]

/-- A machine at the top of whose disk is a file `c` with a catalog, before other entries. -/
def machine (octets : List UInt8) (entries : List (FileName × Node))
    (programs : Text → Option (Nat → Launch)) : Host where
  disk := ⟨.directory ((catalogName, .file octets) :: entries), [], []⟩
  programs
  started := fun _ => 0
  answers := fun _ _ => .text ""
  asked := fun _ => 0
  cancelled := false
  calls := []

/-- A machine with one program, which prints one octet at every start. -/
def printing (executable : Text) (octet : UInt8) : Text → Option (Nat → Launch) :=
  fun name =>
    if name = executable then some fun _ => .completed ⟨false, [], [octet], [], 0, 0⟩ else none

theorem writesNothing_printing (octets : List UInt8) (entries : List (FileName × Node))
    (executable : Text) (octet : UInt8) :
    (machine octets entries (printing executable octet)).WritesNothing := by
  intro name outcomes houtcomes k c hc
  dsimp only [machine, printing] at houtcomes
  split at houtcomes
  · cases houtcomes
    cases hc
    rfl
  · cases houtcomes

/-- The content of the file at a place, if there is one. -/
def fileAt (disk : Disk) (place : Location) : Option (List UInt8) :=
  match disk.top.view place with
  | some (.file content) => some content
  | _ => none

/-- Asks for the groups of the catalog, with a staging directory. -/
def request (staging : Text) : GatherRequest :=
  ⟨some (Path.ofText staging), some (Path.ofText "c"), none, none, false⟩

end GatherRun.Example

end Diagnostics
