import Diagnostics.Cim
import Diagnostics.Text.Pieces

/-!
# Tasks

A task produces one artifact in the staging directory. There are four kinds: a program whose output
is the artifact, or that writes the artifact itself; a structured query; a capture, which starts a
tracing program, waits, and stops it; and a stub, which stands for a task whose outcome is known
beforehand.

A task is known by its label in listings and failures. The two phases of a capture are about the
same artifact, and that is part of its type.
-/

set_option autoImplicit false

namespace Diagnostics

structure ProcessTask where
  executable : Text
  /-- The arguments, separated by blanks. -/
  arguments : Text
  output : Text
  /-- The program writes the artifact itself and is told where to. -/
  ownFile : Bool
  timeout : Option Binary64
  deriving DecidableEq, Repr

structure QueryTask where
  className : Text
  namespaceName : Text
  output : Text
  deriving DecidableEq, Repr

/-- A capture: start a trace, let it run for a while, stop it. -/
structure CaptureTask where
  start : ProcessTask
  stop : ProcessTask
  dwell : Binary64
  /-- The two phases are about one artifact. -/
  sameOutput : start.output = stop.output
  deriving DecidableEq, Repr

inductive Task where
  | process (task : ProcessTask)
  | query (task : QueryTask)
  | capture (task : CaptureTask)
  /-- Ends with the fault, or writes the name of its artifact into it. -/
  | stub (output : Text) (fault : Option Fault)
  deriving DecidableEq, Repr

namespace ProcessTask

/-- The command line without the blanks at its ends. -/
def label (task : ProcessTask) : Text :=
  (task.executable ++ " " ++ task.arguments).strip

/-- The words of the command line. In a program that writes its own file, each place in the
arguments where the artifact is named names the path it is to be written to instead. -/
def argv (task : ProcessTask) (target : Path) : List Text :=
  let words := task.arguments.words
  task.executable ::
    if task.ownFile then words.map (Text.replaceName task.output target.text) else words

end ProcessTask

namespace QueryTask

def label (task : QueryTask) : Text :=
  task.className ++ " (" ++ task.namespaceName ++ ")"

/-- What stands before the answer in the artifact. -/
def header (task : QueryTask) : Text :=
  "Queried wmi objects [" ++ task.className ++ "] from namespace " ++ task.namespaceName ++ "\n\n"

end QueryTask

namespace CaptureTask

/-- How long a trace runs if nothing else is said: ten minutes. -/
def defaultDwell : Binary64 := Binary64.ofRatio false 600 1

def output (task : CaptureTask) : Text := task.stop.output

def label (task : CaptureTask) : Text := "capture " ++ task.output

/-- The capture of two phases, if they are about one artifact. -/
def ofPhases? (start stop : ProcessTask) (dwell : Binary64) : Option CaptureTask :=
  if h : start.output = stop.output then some ⟨start, stop, dwell, h⟩ else none

def mismatchMessage (start stop : ProcessTask) : Text :=
  "Capture start and stop phases must share one output name: " ++ start.output.quoted ++ " != " ++
    stop.output.quoted

end CaptureTask

namespace Task

def output : Task → Text
  | .process task => task.output
  | .query task => task.output
  | .capture task => task.output
  | .stub output _ => output

def label : Task → Text
  | .process task => task.label
  | .query task => task.label
  | .capture task => task.label
  | .stub output _ => "stub " ++ output

def isCapture : Task → Bool
  | .capture _ => true
  | _ => false

end Task

/-- What the tasks of a group share: where artifacts go, how queries are put and how stubbornly,
and the group that failures are attributed to. -/
structure Context where
  staging : Path
  backend : Backend
  group : Text
  /-- How often a query is put at most; less than one counts as one. -/
  attempts : Int
  /-- How long to wait before a query is put again. -/
  retryDelay : Binary64
  deriving DecidableEq, Repr

def Context.artifactPath (context : Context) (output : Text) : Path :=
  context.staging.join output

/-- Records an error as a failure of the context's group. -/
def Context.report (context : Context) (e : TaskError) (kind : Option FailureKind) : Action Unit :=
  Action.recordFailure (e.toFailure context.group kind)

end Diagnostics
