import Diagnostics.Failure

/-!
# Collecting files below roots

A file tree is collected root by root. Within a root, directories are walked depth first and their
entries in the order of their names; what is not a directory is collected, and a symbolic link is
never followed. A directory that cannot be listed ends the walk of its root there: what was
collected before stays, and the next root is walked all the same.

The walk is a recursion on the tree below the root. The entries are walked in the order in which
they are stored and put into the order of their names afterwards (`Harvest.inOrder`), so that the
recursion does not have to know about sorting. It goes as deep as the tree does; a limit on the
depth of a recursion, for the sake of the stack, is left out.
-/

set_option autoImplicit false

namespace Diagnostics

/-- What a walk collected, and the refusal that ended it, if one did. -/
structure Harvest where
  paths : List Path
  fault : Option OsFault
  deriving DecidableEq, Repr

namespace Harvest

def empty : Harvest := ⟨[], none⟩

/-- One walk after another; the second does not happen if the first was ended. -/
def andThen (first second : Harvest) : Harvest :=
  match first.fault with
  | some _ => first
  | none => ⟨first.paths ++ second.paths, second.fault⟩

/-- The walks of named entries, one after another in the order of the names. -/
def inOrder (entries : List (Text × Harvest)) : Harvest :=
  ((entries.mergeSort fun a b => a.1 ≤ b.1).map Prod.snd).foldr andThen empty

end Harvest

def ListingFault.toOsFault (path : Path) : ListingFault → OsFault
  | .permission => .errno .permission (some path.text)
  | .broken => .unnumbered "scan failed"

/-- Why the directory at a path cannot be listed, if so: its path is too long, or it is one of the
directories that refuse. -/
def Disk.listingFault? (disk : Disk) (path : Path) : Option OsFault :=
  match pathOctets path.text with
  | .error _ => none
  | .ok octets =>
    if pathLimit ≤ octets.length then some (.errno .nameTooLong (some path.text))
    else (disk.unlistable.lookup path.text).map (·.toOsFault path)

mutual

/-- The walk of what stands at a path. -/
def Node.walk (disk : Disk) (path : Path) : Node → Harvest
  | .directory entries =>
    match disk.listingFault? path with
    | some fault => ⟨[], some fault⟩
    | none => Harvest.inOrder (walkEntries disk path entries)
  | _ => ⟨[path], none⟩

/-- The walks of the entries of a directory, in the order in which they are stored. -/
def Node.walkEntries (disk : Disk) (path : Path) : List (FileName × Node) → List (Text × Harvest)
  | [] => []
  | (name, node) :: entries =>
    let shown := Text.Utf8.decodeName name
    (shown, Node.walk disk (path.child shown) node) :: Node.walkEntries disk path entries

end

/-- The walk of a root. A root that is not a directory, or is a link, is collected itself. -/
def Disk.walkRoot (disk : Disk) (root : Path) : Except DiskError Harvest :=
  match disk.node? false root with
  | .ok node => .ok (node.walk disk root)
  | .error (.os fault) => .ok ⟨[], some fault⟩
  | .error e => .error e

/-- Every file below the given roots, and an error for each root whose walk was ended. -/
def Disk.collect (disk : Disk) : List Path → Except DiskError (List Path × List TaskError)
  | [] => .ok ([], [])
  | root :: roots =>
    match disk.walkRoot root with
    | .error e => .error e
    | .ok harvest =>
      match disk.collect roots with
      | .error e => .error e
      | .ok (paths, errors) =>
        .ok (harvest.paths ++ paths, (harvest.fault.map (.unreachable root)).toList ++ errors)

end Diagnostics
