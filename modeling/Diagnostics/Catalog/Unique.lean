import Diagnostics.Catalog.Error
import Diagnostics.Group

/-!
# Names are used once

Groups run at the same time and write into one directory. They stay out of each other's way because
a catalog in which two groups share a name, or two tasks an artifact, is rejected; and because a
capture, which takes as long as its trace runs, is the only task of its group.
-/

set_option autoImplicit false

namespace Diagnostics.Catalog

/-- An artifact's name, and the task it belongs to in words. -/
abbrev Owners := List (Text × Text)

/-- Checks the artifacts of a group's tasks against those that have an owner already. -/
def checkTasks (group : Text) : Owners → List Task → Except CatalogError Owners
  | owners, [] => .ok owners
  | owners, task :: tasks =>
    match owners.lookup task.output with
    | some owner => .error (.sharedOutput task.output owner group task.label)
    | none => checkTasks group ((task.output, group ++ "/" ++ task.label) :: owners) tasks

/-- Checks groups against the names and the artifacts seen so far. -/
def checkGroups : (names : List Text) → Owners → List Group → Except CatalogError Unit
  | _, _, [] => .ok ()
  | names, owners, group :: groups =>
    if group.name ∈ names then .error (.duplicateGroup group.name)
    else
      match group.work with
      | .tasks tasks =>
        if 1 < tasks.length && tasks.any Task.isCapture then .error (.captureNotAlone group.name)
        else
          match checkTasks group.name owners tasks with
          | .ok owners => checkGroups (group.name :: names) owners groups
          | .error e => .error e
      | .roots _ | .broken .. => checkGroups (group.name :: names) owners groups

def checkUnique (groups : List Group) : Except CatalogError Unit :=
  checkGroups [] [] groups

end Diagnostics.Catalog
