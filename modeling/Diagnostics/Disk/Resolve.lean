import Diagnostics.Disk.Errno
import Diagnostics.Disk.Node
import Diagnostics.Text.Basic

/-!
# Where a path leads

Names are looked up one after another from the working directory or the top. A link on the way is
always followed, a link at the end only if the request says so, and no more than forty are followed
altogether; so a cycle of links ends in a refusal and not in a search without end. Accordingly the
search has two layers, each a recursion on its data: `advance` walks along names until it arrives
or stands before a link, and `resolve` counts the links.
-/

set_option autoImplicit false

namespace Diagnostics

/-- How the last name of a path is treated. -/
structure Intent where
  follow : Bool
  /-- A file is to be created at the end, so the last name cannot be written like a directory's. -/
  create : Bool
  deriving DecidableEq, Repr

/-- Where a walk along names ends. -/
inductive Arrival where
  | found (place : Location)
  /-- Nothing stands there, in a directory that does exist. -/
  | vacant (place : Location)
  deriving DecidableEq, Repr

/-- A walk has arrived, or stands before a link in a directory with names left to walk. -/
inductive Progress where
  | arrived (arrival : Arrival)
  | crossing (directory : Location) (target : List UInt8) (rest : List FileName)
  deriving DecidableEq, Repr

/-- The most links that are followed for one path. -/
def linkLimit : Nat := 40

/-- The most octets of one name. -/
def nameLimit : Nat := 255

/-- The octets that a path is too long with. -/
def pathLimit : Nat := 4096

/-- The name by which a directory means itself. -/
def dot : FileName := [0x2E]

/-- The name by which a directory means the one it is in. -/
def dotDot : FileName := [0x2E, 0x2E]

/-- Walks along names from a directory. That the last name is written like a directory's is seen
before the name is looked up, its length only then. -/
def advance (top : Node) (intent : Intent) : Location → List FileName → Except Errno Progress
  | directory, [] => .ok (.arrived (.found directory))
  | directory, name :: rest =>
    if name = [] ∨ name = dot then advance top intent directory rest
    else if name = dotDot then advance top intent directory.dropLast rest
    else if intent.create ∧ rest ≠ [] ∧ rest.all List.isEmpty then .error .isDirectory
    else if nameLimit < name.length then .error .nameTooLong
    else
      match top.at? (directory ++ [name]) with
      | none =>
        if rest = [] then .ok (.arrived (.vacant (directory ++ [name]))) else .error .noEntry
      | some (.link target) =>
        if rest = [] ∧ ¬ intent.follow then .ok (.arrived (.found (directory ++ [name])))
        else .ok (.crossing directory target rest)
      | some (.directory _) => advance top intent (directory ++ [name]) rest
      | some _ =>
        if rest = [] then .ok (.arrived (.found (directory ++ [name]))) else .error .notDirectory

/-- The names between the slashes of a written path. -/
def writtenNames (path : List UInt8) : List FileName :=
  Text.splitAtEach (· = 0x2F) path

/-- The directory that a written path is walked from: the top if it begins with a slash. -/
def writtenStart (directory : Location) (path : List UInt8) : Location :=
  if path.head? = some 0x2F then [] else directory

/-- Walks along names and follows so many links. -/
def resolve (top : Node) (intent : Intent) :
    (links : Nat) → Location → List FileName → Except Errno Arrival
  | links, directory, names =>
    match advance top intent directory names with
    | .error e => .error e
    | .ok (.arrived arrival) => .ok arrival
    | .ok (.crossing directory target rest) =>
      match links with
      | 0 => .error .tooManyLinks
      | links + 1 =>
        resolve top intent links (writtenStart directory target) (writtenNames target ++ rest)

end Diagnostics
