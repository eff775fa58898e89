import Diagnostics.Disk.Backlog
import Diagnostics.Task.Basic

/-!
# Running tasks

Each kind of task has its own run; all of them end with the path of the artifact or with a fault.
The fault is a `TaskError` where the task expects it: an artifact that cannot be opened or written, a
program that cannot be started, does not end in time or ends badly, a query that stays unanswered.

A group's tasks run one after another (`runAll`). No fault stops them: each is recorded as a
failure, and what is returned are the artifacts of the tasks that came to a good end.
-/

set_option autoImplicit false

namespace Diagnostics

/-- Opens an artifact for a task with a label. A refusal is the task's own error. -/
def openArtifact (label : Text) (path : Path) : Action Location := do
  match ← Action.attempt (Action.openFile path) with
  | .ok place => return place
  | .error (.os fault) => throw (.task (.failed label (.notCreated path fault)))
  | .error fault => throw fault

/-- A refused write as the own error of a task with a label. -/
def notWritten (label : Text) (path : Path) (fault : OsFault) : Fault :=
  .task (.failed label (.notWritten path fault))

/-- Writes texts one after another to an open artifact and closes it. The first text without octets
ends the writing, and what was written before it stays. A full device refuses a write, and this is
told as `refused` says, or it refuses the closing of the file; that comes last, so it is told as it
is. Neither names a path. -/
def writeArtifact (place : Location) (texts : List Text) (refused : OsFault → Fault) :
    Action Unit :=
  let (octets, error) := Text.Utf8.encodeUntil texts
  let noSpace : OsFault := .errno .noSpace none
  .request (.closeFile place octets) fun taken =>
    if !taken then throw (if Backlog.refusesWrite texts then refused noSpace else .os noSpace)
    else
      match error with
      | some e => throw (.unencodable e)
      | none => return ()

namespace ProcessTask

/-- Runs the program to its end, which has to be in time and with a status of zero. -/
def execute (task : ProcessTask) (argv : List Text) (redirect : Redirect) : Action Unit := do
  match ← Action.attempt (Action.start argv task.timeout redirect) with
  | .ok .timedOut => throw (.task (.failed task.label (.timedOut (task.timeout.getD 0))))
  | .ok (.exited code _ _) =>
    if code = 0 then return ()
    else throw (.task (.failed task.label (.exitStatus code)))
  | .error (.os fault) => throw (.task (.failed task.label (.notStarted fault)))
  | .error fault => throw fault

/-- Runs a program. One that does not write its own file has both outputs redirected into the
artifact, which is opened before the program is started. -/
def run (task : ProcessTask) (context : Context) : Action Path := do
  let target := context.artifactPath task.output
  let argv := task.argv target
  if task.ownFile then
    task.execute argv .discard
    return target
  else
    let place ← openArtifact task.label target
    task.execute argv (.file place)
    return target

end ProcessTask

namespace QueryTask

/-- Puts a query, and so many times again as long as it fails; a fault that is no failed query or
refused request is not tried again. -/
def askAgain (task : QueryTask) (context : Context) : (retries : Nat) → Action Text
  | 0 => do
    match ← Action.attempt (context.backend.ask task.className task.namespaceName) with
    | .ok text => return text
    | .error (.query fault) => throw (.task (.failed task.label (.unanswered fault.message)))
    | .error (.os fault) => throw (.task (.failed task.label (.unanswered fault.message)))
    | .error fault => throw fault
  | retries + 1 => do
    match ← Action.attempt (context.backend.ask task.className task.namespaceName) with
    | .ok text => return text
    | .error (.query _) | .error (.os _) =>
      if 0 < context.retryDelay then Action.wait context.retryDelay
      task.askAgain context retries
    | .error fault => throw fault

/-- Puts a query as often as the context allows. -/
def answer (task : QueryTask) (context : Context) : Action Text :=
  task.askAgain context (context.attempts - 1).toNat

/-- Runs a query: opens the artifact, puts the query, and writes a header and the answer. A refused
write is the task's own error, unless closing the file is refused too. -/
def run (task : QueryTask) (context : Context) : Action Path := do
  let target := context.artifactPath task.output
  let place ← openArtifact task.label target
  let text ← task.answer context
  writeArtifact place [task.header, text] (notWritten task.label target)
  return target

end QueryTask

namespace CaptureTask

/-- Runs a capture. A failed start is recorded and does not keep the stop phase from running, whose
end is the end of the task. -/
def run (task : CaptureTask) (context : Context) : Action Path := do
  match ← Action.attempt (task.start.run context) with
  | .ok _ => pure ()
  | .error (.task e) => context.report e (some .captureStart)
  | .error fault => throw fault
  Action.wait task.dwell
  task.stop.run context

end CaptureTask

def runStub (output : Text) (fault : Option Fault) (context : Context) : Action Path := do
  match fault with
  | some fault => throw fault
  | none =>
    let target := context.artifactPath output
    let place ← Action.openFile target
    writeArtifact place [output] .os
    return target

def Task.run (context : Context) : Task → Action Path
  | .process task => task.run context
  | .query task => task.run context
  | .capture task => task.run context
  | .stub output fault => runStub output fault context

/-- Runs a task and records its failure: an expected one as it is, any other as unexpected. -/
def Task.runRecorded (context : Context) (task : Task) : Action (Option Path) := do
  match ← Action.attempt (task.run context) with
  | .ok path => return some path
  | .error (.task e) =>
    context.report e none
    return none
  | .error fault =>
    Action.recordFailure (fault.toFailure context.group task.label)
    return none

/-- Runs tasks one after another and returns the artifacts of those that did not fail. -/
def runAll (context : Context) : List Task → Action (List Path)
  | [] => return []
  | task :: tasks => do
    let path ← task.runRecorded context
    let paths ← runAll context tasks
    return path.toList ++ paths

end Diagnostics
