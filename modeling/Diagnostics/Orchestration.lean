import Diagnostics.Report

/-!
# Running groups and joining them into a report

A run selects the groups that are asked for, makes the staging directory, runs every selected group
to its end, and takes the recorded failures only after the last group has ended; so no failure can
arrive too late for the report. Groups are run here in the order in which they are given, which is
one of the orders that concurrent groups may take.
-/

set_option autoImplicit false

namespace Diagnostics

/-- The groups that a run is asked for: all of them, or those without the trace mark. -/
def selectedGroups (groups : List Group) (includeTrace : Bool) : List Group :=
  groups.filter fun g => includeTrace || !g.trace

/-- The words for a count of workers below zero. -/
def workersMessage : String := "max_workers must be greater than 0"

/-- The same work with a record of its own for failures, which holds these already and ends with
it. -/
def Action.withRecord {α : Type} (own : List Failure) : Action α → Action α
  | .done outcome => .done outcome
  | .request r next =>
    match r, next with
    | .record failure, next => withRecord (own ++ [failure]) (next ())
    | .recorded, next => withRecord own (next own)
    | r, next => .request r fun x => withRecord own (next x)

/-- The same work with a record of its own for failures, which ends with it. -/
def Action.withOwnRecord {α : Type} (work : Action α) : Action α :=
  work.withRecord []

def gatherGroups (context : Context) : List Group → Action (List GroupResult)
  | [] => return []
  | group :: groups => do
    let result ← group.gatherRecorded context
    let results ← gatherGroups context groups
    return result :: results

/-- Runs the selected groups and joins them. The count of workers matters only if it is below zero;
zero means as many as there are groups. -/
def orchestrate (groups : List Group) (context : Context) (includeTrace : Bool)
    (maxWorkers : Option Int) : Action RunReport := do
  let selected := selectedGroups groups includeTrace
  Action.ensureDirectories context.staging
  if selected.isEmpty then return ⟨[], ← Action.recorded⟩
  else if maxWorkers.any (· < 0) then throw (.invalid workersMessage)
  else
    let results ← gatherGroups context selected
    return ⟨results, ← Action.recorded⟩

end Diagnostics
