import Diagnostics.Catalog.Error
import Diagnostics.Group

/-!
# From a JSON document to groups

The reader goes through a document in the order of its groups and tasks and stops at the first
fault. Within a task, the optional fields are looked at before the required ones, and a number is
brought to binary64 last of all; with two faults in one task this decides which one is told.
-/

set_option autoImplicit false

namespace Diagnostics.Catalog

open Diagnostics.Json (field?)

def reject {α : Type} (place : Place) (complaint : Complaint) : Except CatalogFault α :=
  .error (.rejected (.malformed place complaint))

/-- A number of seconds as it is written. -/
inductive Seconds where
  | integer (i : Int)
  | number (x : Binary64)
  deriving DecidableEq, Repr

namespace Seconds

def ofJson? : Json → Option Seconds
  | .integer i => some (.integer i)
  | .number x => some (.number x)
  | _ => none

def isNegative : Seconds → Bool
  | .integer i => i < 0
  | .number x => x < 0

/-- Whether a number is at most zero; one that is not a number is not. -/
def isNotPositive : Seconds → Bool
  | .integer i => i ≤ 0
  | .number x => x ≤ 0

def toBinary64 : Seconds → Except CatalogFault Binary64
  | .integer i =>
    match Binary64.ofInt? i with
    | some x => .ok x
    | none => .error .tooLarge
  | .number x => .ok x

end Seconds

/-! ## Fields -/

/-- A field that has to be a text that is not blank. -/
def requiredText (place : Place) (fields : List (Text × Json)) (name : String) :
    Except CatalogFault Text :=
  match field? name fields with
  | some (.text s) => if s.allBlank then reject place (.blank name) else .ok s
  | _ => reject place (.blank name)

/-- The name of the artifact: a text that is not blank and is its own last part as a path. -/
def requiredOutput (place : Place) (fields : List (Text × Json)) :
    Except CatalogFault Text := do
  let output ← requiredText place fields "output"
  if (Path.ofText output).name = output then return output
  else reject place (.notBareName output)

/-- A field that is a boolean, false if it is missing. -/
def optionalBool (place : Place) (fields : List (Text × Json)) (name : String) :
    Except CatalogFault Bool :=
  match field? name fields with
  | none => .ok false
  | some (.bool b) => .ok b
  | some _ => reject place (.notBoolean name)

/-- The arguments of a program, none if the field is missing. -/
def optionalArguments (place : Place) (fields : List (Text × Json)) :
    Except CatalogFault Text :=
  match field? "args" fields with
  | none => .ok ""
  | some (.text s) => .ok s
  | some _ => reject place (.notText "args")

/-- The limit on a program's time, none if the field is missing or null. -/
def optionalTimeout (place : Place) (fields : List (Text × Json)) :
    Except CatalogFault (Option Seconds) :=
  match field? "timeout_seconds" fields with
  | none | some .null => .ok none
  | some v =>
    match Seconds.ofJson? v with
    | some t => if t.isNotPositive then reject place .timeoutNotPositive else .ok (some t)
    | none => reject place .timeoutNotPositive

def optionalDwell (place : Place) (fields : List (Text × Json)) : Except CatalogFault Seconds :=
  match field? "dwell_seconds" fields with
  | none => .ok (.number CaptureTask.defaultDwell)
  | some v =>
    match Seconds.ofJson? v with
    | some d => if d.isNegative then reject place .dwellNegative else .ok d
    | none => reject place .dwellNegative

/-! ## Tasks -/

/-- A program. In a phase of a capture it is settled beforehand that the program writes its own
file, and the field about that is not looked at. -/
def parseProcess (place : Place) (ownFile : Option Bool) (fields : List (Text × Json)) :
    Except CatalogFault ProcessTask := do
  let arguments ← optionalArguments place fields
  let ownFile ←
    match ownFile with
    | some b => pure b
    | none => optionalBool place fields "produces_own_file"
  let timeout ← optionalTimeout place fields
  let executable ← requiredText place fields "executable"
  let output ← requiredOutput place fields
  let timeout ←
    match timeout with
    | some t => t.toBinary64.map some
    | none => pure none
  return { executable, arguments, output, ownFile, timeout }

def parseQuery (place : Place) (fields : List (Text × Json)) : Except CatalogFault QueryTask := do
  let className ← requiredText place fields "class"
  let namespaceName ← requiredText place fields "namespace"
  let output ← requiredOutput place fields
  return { className, namespaceName, output }

def parseCapture (group index : Nat) (fields : List (Text × Json)) :
    Except CatalogFault CaptureTask := do
  let place := Place.task group index
  match field? "start" fields, field? "stop" fields with
  | some (.object startFields), some (.object stopFields) =>
    let dwell ← optionalDwell place fields
    let start ← parseProcess (.phase group index .start) (some true) startFields
    let stop ← parseProcess (.phase group index .stop) (some true) stopFields
    let dwell ← dwell.toBinary64
    match CaptureTask.ofPhases? start stop dwell with
    | some task => return task
    | none => reject place (.phasesDiffer start stop)
  | _, _ => reject place .phasesMissing

def parseTask (group index : Nat) (v : Json) : Except CatalogFault Task :=
  let place := Place.task group index
  match v with
  | .object fields =>
    match field? "type" fields with
    | some (.text kind) =>
      if kind = "process" then (parseProcess place none fields).map .process
      else if kind = "query" then (parseQuery place fields).map .query
      else if kind = "capture" then (parseCapture group index fields).map .capture
      else reject place .unknownType
    | _ => reject place .unknownType
  | _ => reject place .notObject

def parseTasks (group : Nat) : (index : Nat) → List Json → Except CatalogFault (List Task)
  | _, [] => .ok []
  | index, v :: vs => do
    let task ← parseTask group index v
    let tasks ← parseTasks group (index + 1) vs
    return task :: tasks

/-! ## Groups -/

/-- The texts of an array that holds nothing else. -/
def texts? : List Json → Option (List Text)
  | [] => some []
  | .text s :: vs => (texts? vs).map (s :: ·)
  | _ :: _ => none

/-- What a group does: exactly one of its two fields is present. -/
def parseWork (index : Nat) (fields : List (Text × Json)) : Except CatalogFault Work :=
  let place := Place.group index
  match field? "tasks" fields, field? "roots" fields with
  | none, some (.array vs) =>
    match texts? vs with
    | some roots => .ok (.roots (roots.map Path.ofText))
    | none => reject place (.notTexts "roots")
  | none, some _ => reject place (.notTexts "roots")
  | some (.array vs), none => (parseTasks index 0 vs).map .tasks
  | some _, none => reject place (.notArray "tasks")
  | _, _ => reject place .tasksOrRoots

def parseGroup (index : Nat) (v : Json) : Except CatalogFault Group :=
  let place := Place.group index
  match v with
  | .object fields => do
    let name ← requiredText place fields "name"
    let trace ← optionalBool place fields "trace"
    let work ← parseWork index fields
    return { name, trace, work }
  | _ => reject place .notObject

def parseGroups : (index : Nat) → List Json → Except CatalogFault (List Group)
  | _, [] => .ok []
  | index, v :: vs => do
    let group ← parseGroup index v
    let groups ← parseGroups (index + 1) vs
    return group :: groups

end Diagnostics.Catalog
