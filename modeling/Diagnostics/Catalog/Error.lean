import Diagnostics.Json.Reader
import Diagnostics.Task.Basic

/-!
# What can be wrong with a catalog

A catalog is rejected with the place of the first fault and a complaint about it. The place is a
group, a task of a group, or a phase of a capture; a complaint about a phase is told together with
the task that the phase belongs to.

Next to a rejection there are four faults that are none of the catalog's: a number that has no
binary64 form, an integer of too many digits, a file that is no UTF-8, and a path that the operating
system cannot be asked about.
-/

set_option autoImplicit false

namespace Diagnostics

inductive Phase where
  | start
  | stop
  deriving DecidableEq, Repr

def Phase.name : Phase → String
  | .start => "start"
  | .stop => "stop"

inductive Place where
  | group (index : Nat)
  | task (group index : Nat)
  | phase (group task : Nat) (phase : Phase)
  deriving DecidableEq, Repr

def Place.text : Place → String
  | .group i => s!"catalog.groups[{i}]"
  | .task i j => s!"catalog.groups[{i}].tasks[{j}]"
  | .phase i j p => s!"catalog.groups[{i}].tasks[{j}].{p.name}"

/-- What is told before a complaint about a place. -/
def Place.preamble : Place → String
  | .phase i j _ => (Place.task i j).text ++ ": "
  | _ => ""

/-- What is wrong at a place. -/
inductive Complaint where
  | notObject
  /-- The field has to be a text that is not blank. -/
  | blank (field : String)
  | notText (field : String)
  | notBoolean (field : String)
  | notArray (field : String)
  | notTexts (field : String)
  | tasksOrRoots
  | unknownType
  | phasesMissing
  | dwellNegative
  | timeoutNotPositive
  | notBareName (output : Text)
  | phasesDiffer (start stop : ProcessTask)
  deriving DecidableEq, Repr

def Complaint.text (place : String) : Complaint → Text
  | .notObject => s!"{place} must be an object"
  | .blank field => s!"{place}.{field} must be a non-empty string"
  | .notText field => s!"{place}.{field} must be a string"
  | .notBoolean field => s!"{place}.{field} must be a boolean"
  | .notArray field => s!"{place}.{field} must be an array"
  | .notTexts field => s!"{place}.{field} must be an array of strings"
  | .tasksOrRoots => s!"{place} must define exactly one of 'tasks' or 'roots'"
  | .unknownType => s!"{place}.type must be one of 'process', 'query', 'capture'"
  | .phasesMissing => s!"{place}.start and {place}.stop must be objects"
  | .dwellNegative => s!"{place}.dwell_seconds must be a number >= 0"
  | .timeoutNotPositive => s!"{place}.timeout_seconds must be a positive number"
  | .notBareName output => s!"{place}.output must be a bare file name: " ++ output.quoted
  | .phasesDiffer start stop => s!"{place}: " ++ CaptureTask.mismatchMessage start stop

/-- Why a catalog is rejected. -/
inductive CatalogError where
  | notObject
  | groupsNotArray
  | malformed (place : Place) (complaint : Complaint)
  | duplicateGroup (name : Text)
  | captureNotAlone (group : Text)
  /-- Two tasks share an output: the owner found first, as group and label, and the second one. -/
  | sharedOutput (output owner group label : Text)
  | unreadable (path : Path) (fault : OsFault)
  | notJson (path : Path) (error : Json.SyntaxError)
  deriving DecidableEq, Repr

def CatalogError.message : CatalogError → Text
  | .notObject => "catalog must be a JSON object"
  | .groupsNotArray => "catalog.groups must be an array"
  | .malformed place complaint => place.preamble ++ complaint.text place.text
  | .duplicateGroup name => "Duplicate group name: " ++ name.quoted
  | .captureNotAlone group => "Capture task must be the only task in group " ++ group.quoted
  | .sharedOutput output owner group label =>
    "Output name " ++ output.quoted ++ " used by both " ++ owner.quoted ++ " and " ++
      group.quoted ++ "/" ++ label.quoted
  | .unreadable path fault => "Cannot read catalog " ++ path.text ++ ": " ++ fault.message
  | .notJson path error => "Invalid JSON in catalog " ++ path.text ++ ": " ++ error.message

/-- Why there is no catalog. -/
inductive CatalogFault where
  | rejected (error : CatalogError)
  /-- A number of seconds has no binary64 form. -/
  | tooLarge
  /-- An integer has more digits than are read. -/
  | tooManyDigits (count : Nat)
  | notUtf8 (error : Text.Utf8.DecodeError)
  | unencodable (error : Text.Utf8.EncodeError)
  | embeddedNul
  deriving DecidableEq, Repr

def CatalogFault.message : CatalogFault → Text
  | .rejected error => error.message
  | .tooLarge => "int too large to convert to float"
  | .tooManyDigits count => Numeral.tooManyDigitsMessage count
  | .notUtf8 error => error.message
  | .unencodable error => error.message
  | .embeddedNul => DiskError.nulMessage

end Diagnostics
