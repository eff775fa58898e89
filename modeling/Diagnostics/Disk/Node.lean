/-!
# The tree of files

A disk is a tree: files with their content, symbolic links with their target, and directories with
named entries. A name, and the target of a link, is a list of octets and need not be UTF-8. One kind
of file is special, the one on a device that is full: it opens like any other and refuses every
write.

A `Location` is the names from the top of the tree down, without links, dots or double dots. What
stands at a location is `at?`, the view through which every operation on the tree is described:
`graft` changes what stands at one location and leaves alone what stands elsewhere.
-/

set_option autoImplicit false

namespace Diagnostics

abbrev FileName := List UInt8

/-- A file, a link or a directory with everything below it. -/
inductive Node where
  | file (content : List UInt8)
  | full
  | link (target : List UInt8)
  | directory (entries : List (FileName × Node))
  deriving Repr, Inhabited

/-- The names from the top of the tree to a node. -/
abbrev Location := List FileName

namespace Node

def entry? (name : FileName) : List (FileName × Node) → Option Node
  | [] => none
  | (n, node) :: entries => if n = name then some node else entry? name entries

/-- Puts an entry in the place of the one with its name, or behind all others. -/
def setEntry (name : FileName) (node : Node) : List (FileName × Node) → List (FileName × Node)
  | [] => [(name, node)]
  | (n, old) :: entries =>
    if n = name then (n, node) :: entries else (n, old) :: setEntry name node entries

/-- What stands at a location below a node. -/
def at? : Node → Location → Option Node
  | node, [] => some node
  | .directory entries, name :: rest =>
    match entry? name entries with
    | some node => node.at? rest
    | none => none
  | _, _ :: _ => none

/-- Puts a node at a location. The directory it goes into has to be there already; otherwise
nothing changes. -/
def graft (new : Node) : Node → Location → Node
  | _, [] => new
  | .directory entries, [name] => .directory (setEntry name new entries)
  | .directory entries, name :: rest =>
    match entry? name entries with
    | some node => .directory (setEntry name (graft new node rest) entries)
    | none => .directory entries
  | node, _ :: _ => node

def prune : Node → Location → Node
  | node, [] => node
  | .directory entries, [name] => .directory (entries.filter fun e => e.1 ≠ name)
  | .directory entries, name :: rest =>
    match entry? name entries with
    | some node => .directory (setEntry name (prune node rest) entries)
    | none => .directory entries
  | node, _ :: _ => node

def isDirectory : Node → Bool
  | .directory _ => true
  | _ => false

def isLink : Node → Bool
  | .link _ => true
  | _ => false

/-! ## The view of one entry -/

@[simp] theorem entry?_setEntry_self (name : FileName) (node : Node)
    (entries : List (FileName × Node)) :
    entry? name (setEntry name node entries) = some node := by
  induction entries with
  | nil => simp [setEntry, entry?]
  | cons e entries ih =>
    obtain ⟨n, old⟩ := e
    by_cases h : n = name <;> simp [setEntry, entry?, h, ih]

theorem entry?_setEntry_of_ne {name other : FileName} (h : other ≠ name) (node : Node)
    (entries : List (FileName × Node)) :
    entry? other (setEntry name node entries) = entry? other entries := by
  induction entries with
  | nil => simp [setEntry, entry?, Ne.symm h]
  | cons e entries ih =>
    obtain ⟨n, old⟩ := e
    by_cases hn : n = name
    · subst hn
      simp [setEntry, entry?, Ne.symm h]
    · by_cases ho : n = other
      · subst ho
        simp [setEntry, entry?, h]
      · simp [setEntry, entry?, hn, ho, ih]

end Node

end Diagnostics
