import Diagnostics.FileTree
import Diagnostics.Task.Run

/-!
# Groups

A group is what runs concurrently with other groups. It has a name and either tasks, which run
strictly one after another, or the roots of file trees, whose files are listed and left where they
are. A group with the trace mark runs only when traces are asked for.
-/

set_option autoImplicit false

namespace Diagnostics

inductive Work where
  | tasks (tasks : List Task)
  | roots (roots : List Path)
  /-- Work of a caller's own that reports errors and then ends with a fault. -/
  | broken (reported : List TaskError) (fault : Fault)
  deriving DecidableEq, Repr

structure Group where
  name : Text
  trace : Bool
  work : Work
  deriving DecidableEq, Repr

/-- The artifacts that a group produced, or the files that it found. -/
structure GroupResult where
  name : Text
  artifacts : List Path
  deriving DecidableEq, Repr

/-- Records errors one after another as failures of the context's group. -/
def Context.reportAll (context : Context) : List TaskError → Action Unit
  | [] => return ()
  | e :: errors => do
    context.report e none
    context.reportAll errors

def collectRoots (context : Context) (roots : List Path) : Action (List Path) := do
  let (paths, errors) ← Action.collect roots
  context.reportAll errors
  return paths

def Group.gather (group : Group) (context : Context) : Action GroupResult := do
  match group.work with
  | .tasks tasks => return ⟨group.name, ← runAll context tasks⟩
  | .roots roots => return ⟨group.name, ← collectRoots context roots⟩
  | .broken reported fault =>
    context.reportAll reported
    throw fault

/-- Runs a group in its own context. A group that ends with a fault has no artifacts and leaves a
failure that is attributed to itself. -/
def Group.gatherRecorded (context : Context) (group : Group) : Action GroupResult := do
  match ← Action.attempt (group.gather { context with group := group.name }) with
  | .ok result => return result
  | .error fault =>
    Action.recordFailure (fault.toFailure group.name group.name)
    return ⟨group.name, []⟩

end Diagnostics
