import Diagnostics.Group
import Diagnostics.Json.Writer

/-!
# The report of a run

A report lists what every group produced and every failure that was recovered from. It has two
written forms: a JSON document for the packager (`RunReport.document`), which depends on no order
that groups and failures arrived in beyond ties, and lines for the reader (`RunReport.lines`), in
which failures stand in the order in which they arrived.
-/

set_option autoImplicit false

namespace Diagnostics

/-- The results of all groups that ran, and every failure. -/
structure RunReport where
  groups : List GroupResult
  failures : List Failure
  deriving DecidableEq, Repr

namespace RunReport

/-- The words of all failures, one under another; none if nothing failed. -/
def error? (report : RunReport) : Option Text :=
  if report.failures.isEmpty then none
  else some (Text.join "\n" (report.failures.map (·.message)))

def group? (report : RunReport) (name : Text) : Option GroupResult :=
  report.groups.find? (·.name = name)

/-- The results in the order of their names; results of one name keep their order. -/
def sortedGroups (report : RunReport) : List GroupResult :=
  report.groups.mergeSort fun a b => a.name ≤ b.name

end RunReport

/-- Whether one failure may stand before another: by group, then source, then words. The class does
not count. -/
def Failure.precedes (a b : Failure) : Bool :=
  if a.group ≠ b.group then a.group < b.group
  else if a.source ≠ b.source then a.source < b.source
  else a.message ≤ b.message

namespace RunReport

/-- The failures in order; failures that differ in class alone keep theirs. -/
def sortedFailures (report : RunReport) : List Failure :=
  report.failures.mergeSort Failure.precedes

end RunReport

def GroupResult.toJson (result : GroupResult) : Json :=
  .object [("artifacts", .array (result.artifacts.map fun p => .text p.text)),
    ("name", .text result.name)]

def Failure.toJson (failure : Failure) : Json :=
  .object [("group", .text failure.group), ("kind", .text failure.kind.name),
    ("message", .text failure.message), ("source", .text failure.source)]

def GroupResult.line (result : GroupResult) : Text :=
  "- " ++ result.name ++ s!": {result.artifacts.length} artifacts"

def Failure.line (failure : Failure) : Text :=
  "- [" ++ failure.group ++ "] " ++ failure.kind.name ++ ": " ++ failure.message

namespace RunReport

/-- The document of a report. Fields stand in the order of their names. -/
def document (report : RunReport) : Json :=
  .object [("failures", .array (report.sortedFailures.map Failure.toJson)),
    ("groups", .array (report.sortedGroups.map GroupResult.toJson))]

def lines (report : RunReport) : List Text :=
  [(s!"Groups: {report.groups.length}" : Text)] ++ report.sortedGroups.map GroupResult.line ++
    [(s!"Failures: {report.failures.length}" : Text)] ++ report.failures.map Failure.line

/-- The name of a report's file in the staging directory. -/
def fileName : String := "gather_report.json"

/-- Makes the directory of a path if it is missing and writes the document there. The file is opened
before the document becomes octets, so a document that has none leaves an empty file. -/
def write (report : RunReport) (path : Path) (disk : Disk) : Except DiskError Unit × Disk :=
  match disk.ensureDirectories path.parent with
  | (.error e, disk) => (.error e, disk)
  | (.ok (), disk) =>
    match disk.openForWriting path with
    | .error e => (.error e, disk)
    | .ok (place, disk) =>
      match Text.Utf8.encode report.document.write with
      | .error e => (.error (.unencodable e), disk)
      | .ok octets =>
        let (taken, disk) := disk.flushAt place octets
        (if taken then .ok () else .error (.os (.errno .noSpace none)), disk)

end RunReport

end Diagnostics
