import Diagnostics.Disk.Access
import Diagnostics.Number.Shortest
import Diagnostics.Platform

/-!
# What can go wrong in a run

Three layers of failure, from the inside out.

* A `Fault` is whatever stops a piece of work: a task's own error, a refused request, a query that
  was answered with a failure. Each says *why*; its words are made in one place, `Fault.message`.
* A `TaskError` is the fault that a task was written to expect. It knows its kind and its source,
  and a group goes on with the next task after it.
* A `Failure` is what is left in the end: one entry of the run's report.
-/

set_option autoImplicit false

namespace Diagnostics

inductive FailureKind where
  | io
  | process
  | query
  | traversal
  | captureStart
  | unexpected
  deriving DecidableEq, Repr

def FailureKind.name : FailureKind → String
  | .io => "io"
  | .process => "process"
  | .query => "query"
  | .traversal => "traversal"
  | .captureStart => "capture_start"
  | .unexpected => "unexpected"

/-- One recorded failure: the group and the task or root it is attributed to, its class and its
words. -/
structure Failure where
  group : Text
  source : Text
  kind : FailureKind
  message : Text
  deriving DecidableEq, Repr

/-- Why a task with a label failed. -/
inductive TaskCause where
  | notCreated (path : Path) (fault : OsFault)
  | notWritten (path : Path) (fault : OsFault)
  | timedOut (seconds : Binary64)
  | notStarted (fault : OsFault)
  | exitStatus (code : Int)
  /-- The last attempt at a query ended with these words. -/
  | unanswered (last : Text)
  deriving DecidableEq, Repr

def TaskCause.kind : TaskCause → FailureKind
  | .notCreated .. | .notWritten .. => .io
  | .timedOut .. | .notStarted .. | .exitStatus .. => .process
  | .unanswered .. => .query

def TaskCause.message : TaskCause → Text
  | .notCreated path fault => "cannot create " ++ path.text ++ ": " ++ fault.message
  | .notWritten path fault => "cannot write " ++ path.text ++ ": " ++ fault.message
  | .timedOut seconds => s!"timed out after {seconds.text}s"
  | .notStarted fault => "failed to start: " ++ fault.message
  | .exitStatus code => s!"exit status {code}"
  | .unanswered last => last

/-- An error that is recovered from: of a task, of a file tree's root, or one reported from outside
with its own class, source and words. -/
inductive TaskError where
  | failed (label : Text) (cause : TaskCause)
  | unreachable (root : Path) (fault : OsFault)
  | reported (kind : FailureKind) (source message : Text)
  deriving DecidableEq, Repr

namespace TaskError

def kind : TaskError → FailureKind
  | .failed _ cause => cause.kind
  | .unreachable .. => .traversal
  | .reported kind .. => kind

/-- What an error is attributed to: the task by its label, the root by its path. -/
def source : TaskError → Text
  | .failed label _ => label
  | .unreachable root _ => root.text
  | .reported _ source _ => source

/-- The words for an error. A refused request about a path names that path, which may lie below
the root. -/
def message : TaskError → Text
  | .failed label cause => label ++ ": " ++ cause.message
  | .unreachable root fault =>
    match fault with
    | .errno e path => path.getD root.text ++ ": " ++ e.text
    | .unnumbered text => root.text ++ ": " ++ text
  | .reported _ _ message => message

/-- The failure that an error leaves in a group; a class given here goes before its own. -/
def toFailure (e : TaskError) (group : Text) (kind : Option FailureKind) : Failure :=
  { group := group
    source := e.source
    kind := kind.getD e.kind
    message := e.message }

end TaskError

/-- Why a single query was not answered. -/
inductive QueryFault where
  /-- There is no program to put the query with. -/
  | noShell (program : Text)
  | notStarted (fault : OsFault)
  | timedOut (className namespaceName : Text) (seconds : Binary64)
  | exitStatus (className namespaceName : Text) (code : Int) (detail : Text)
  | reported (message : Text)
  deriving DecidableEq, Repr

def QueryFault.message : QueryFault → Text
  | .noShell program => "PowerShell not found: " ++ program
  | .notStarted fault => "PowerShell failed to start: " ++ fault.message
  | .timedOut className namespaceName seconds =>
    "Query [" ++ className ++ "] in " ++ namespaceName ++ s!" timed out after {seconds.text}s"
  | .exitStatus className namespaceName code detail =>
    "Query [" ++ className ++ "] in " ++ namespaceName ++ s!" failed with exit code {code}: " ++
      detail
  | .reported message => message

/-- Whatever stops a piece of work. -/
inductive Fault where
  | task (error : TaskError)
  | query (fault : QueryFault)
  | os (fault : OsFault)
  /-- A text was to become octets and has none. -/
  | unencodable (error : Text.Utf8.EncodeError)
  /-- A text with a U+0000 in it was handed to the operating system. -/
  | embeddedNul
  | invalid (message : Text)
  /-- A failure of a piece of work that has only words. -/
  | broken (message : Text)
  /-- The machine was given a time that it cannot keep. -/
  | untimed (error : TimeError)
  deriving DecidableEq, Repr

def Fault.message : Fault → Text
  | .task error => error.message
  | .query fault => fault.message
  | .os fault => fault.message
  | .unencodable error => error.message
  | .embeddedNul => DiskError.nulMessage
  | .invalid message => message
  | .broken message => message
  | .untimed error => error.message

def DiskError.toFault : DiskError → Fault
  | .os fault => .os fault
  | .unencodable error => .unencodable error
  | .embeddedNul => .embeddedNul

/-- The failure that a fault nobody expected leaves in a group. -/
def Fault.toFailure (fault : Fault) (group source : Text) : Failure :=
  { group := group
    source := source
    kind := .unexpected
    message := source ++ ": " ++ fault.message }

end Diagnostics
