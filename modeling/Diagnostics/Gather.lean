import Diagnostics.Catalog.Load
import Diagnostics.Orchestration
import Diagnostics.Settings

/-!
# One gathering run from request to result

A request says what the caller wants; what it leaves open comes from the environment. The order in
which things can go wrong is part of the behaviour: settings of the wrong form, settings out of
range, the catalog, the staging directory. Only then does the first task run, and from there on
nothing that a task does can keep the report from being written.
-/

set_option autoImplicit false

namespace Diagnostics

/-- What a caller asks for; what is missing is taken from the environment or the catalog. -/
structure GatherRequest where
  staging : Option Path
  catalog : Option Path
  includeTrace : Option Bool
  traceDwell : Option Binary64
  /-- A run with failures counts as failed. -/
  strict : Bool
  deriving DecidableEq, Repr

/-- What a run gives back: the lines to print, whether it counts as a success, and the report. -/
structure GatherResult where
  lines : List Text
  success : Bool
  report : RunReport
  deriving DecidableEq, Repr

/-- Why there is no result. -/
inductive GatherFault where
  | settings (error : SettingsError)
  | catalog (fault : CatalogFault)
  | run (fault : Fault)
  deriving DecidableEq, Repr

def GatherFault.message : GatherFault → Text
  | .settings error => error.message
  | .catalog fault => fault.message
  | .run fault => fault.message

/-- Whether a fault is about a value that was given, and not about what the machine did: settings,
the catalog, or a path that cannot be handed to the operating system. A number that has no
binary64 form is told as a fault of arithmetic. -/
def GatherFault.isAboutValue : GatherFault → Bool
  | .settings _ => true
  | .catalog .tooLarge => false
  | .catalog _ => true
  | .run (.unencodable _) => true
  | .run .embeddedNul => true
  | .run (.invalid _) => true
  | .run (.untimed error) => error = .notANumber
  | .run _ => false

def Task.withDwell (dwell : Binary64) : Task → Task
  | .capture task => .capture { task with dwell := dwell }
  | task => task

def Group.withDwell (dwell : Binary64) (group : Group) : Group :=
  match group.work with
  | .tasks tasks => { group with work := .tasks (tasks.map (Task.withDwell dwell)) }
  | _ => group

/-- Groups with the dwell of every capture replaced, if there is something to replace it with. -/
def overrideDwell (dwell : Option Binary64) (groups : List Group) : List Group :=
  match dwell with
  | some dwell => groups.map (Group.withDwell dwell)
  | none => groups

namespace GatherRequest

/-- The settings of a request: those of the environment, with what the request gives in place of
what they say. -/
def settings (request : GatherRequest) (env : Environment) : Except SettingsError Settings := do
  let settings ← Settings.ofEnv env request.staging
  return { settings with
    catalog := request.catalog.or settings.catalog
    traceDwell := request.traceDwell.or settings.traceDwell
    includeTrace := request.includeTrace.getD settings.includeTrace }

end GatherRequest

/-- The context of a run. Without a backend of the caller's, queries go through PowerShell. -/
def Settings.context (s : Settings) (backend : Option Backend) : Context where
  staging := s.staging
  backend := backend.getD (.cim s.powershell (some s.queryTimeout))
  group := ""
  attempts := s.queryAttempts
  retryDelay := s.queryRetryDelay

/-- Runs groups with valid settings on a host and writes the report to the staging directory. -/
def gatherGroupsWith (settings : Settings) (backend : Option Backend) (strict : Bool)
    (groups : List Group) (host : Host) : Except Fault GatherResult × Host :=
  let groups := overrideDwell settings.traceDwell groups
  let work :=
    orchestrate groups (settings.context backend) settings.includeTrace settings.maxWorkers
  match work.settle ⟨host, []⟩ with
  | (.error fault, s) => (.error fault, s.host)
  | (.ok report, s) =>
    let path := settings.staging.child RunReport.fileName
    let result : GatherResult :=
      { lines := report.lines ++ ["Report: " ++ path.text]
        success := !(strict && !report.failures.isEmpty)
        report := report }
    let (written, disk) := report.write path s.host.disk
    ((written.mapError DiskError.toFault).map fun () => result, { s.host with disk := disk })

def gather (env : Environment) (backend : Option Backend) (request : GatherRequest) (host : Host) :
    Except GatherFault GatherResult × Host :=
  match request.settings env with
  | .error e => (.error (.settings e), host)
  | .ok settings =>
    match settings.validate with
    | .error e => (.error (.settings e), host)
    | .ok () =>
      match settings.catalog with
      | none => (.error (.settings .catalogRequired), host)
      | some path =>
        match Catalog.load host.disk path with
        | .error fault => (.error (.catalog fault), host)
        | .ok groups =>
          let (outcome, host) := gatherGroupsWith settings backend request.strict groups host
          (outcome.mapError GatherFault.run, host)

/-- The lines that show the catalog of a path, or of the environment if none is given. -/
def listCatalog (env : Environment) (path : Option Path) (disk : Disk) :
    Except GatherFault (List Text) :=
  match Settings.ofEnv env none with
  | .error e => .error (.settings e)
  | .ok settings =>
    match path.or settings.catalog with
    | none => .error (.settings .catalogRequired)
    | some path =>
      match Catalog.load disk path with
      | .error fault => .error (.catalog fault)
      | .ok groups => .ok (Catalog.listing groups)

end Diagnostics
