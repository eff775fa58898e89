import Diagnostics.Disk.Resolve
import Diagnostics.Path
import Diagnostics.Text.Utf8

/-!
# Requests to the disk

What a program can ask of a disk: whether something is a directory or a link, the content of a
file, a file opened for writing, a new directory, all missing directories of a path. A request
that is refused changes nothing, with one exception: a failed request for several directories
leaves those it had already made.

A path reaches the disk as octets. One that has none, because of a surrogate that is no part of a
file's name, or that has a U+0000 in it, does not: questions about it are answered "no", every other
request fails in a way of its own (`DiskError.unencodable`, `DiskError.embeddedNul`).
-/

set_option autoImplicit false

namespace Diagnostics

/-- How a directory refuses to be listed. -/
inductive ListingFault where
  | permission
  /-- The listing breaks off with a failure that has no number. -/
  | broken
  deriving DecidableEq, Repr

/-- A tree of files, the directory that relative paths start from, and the paths under which a
directory cannot be listed. -/
structure Disk where
  top : Node
  workingDirectory : Location
  unlistable : List (Text × ListingFault)
  deriving Repr, Inhabited

inductive DiskError where
  | os (fault : OsFault)
  | unencodable (error : Text.Utf8.EncodeError)
  | embeddedNul
  deriving DecidableEq, Repr

namespace DiskError

def nulMessage : String := "embedded null byte"

def message : DiskError → Text
  | .os fault => fault.message
  | .unencodable error => error.message
  | .embeddedNul => nulMessage

end DiskError

namespace Disk

def refusal (e : Errno) (path : Path) : DiskError :=
  .os (.errno e (some path.text))

/-- The octets that a path reaches the disk as. -/
def pathOctets (written : Text) : Except DiskError (List UInt8) :=
  match Text.Utf8.encodeName written with
  | .error e => .error (.unencodable e)
  | .ok octets => if octets.contains 0 then .error .embeddedNul else .ok octets

/-- Where a written path leads, every slash taken as it is written: behind a slash at the end only
a directory is found. The empty text leads nowhere. A refusal tells the path as it is written. -/
def locateText (disk : Disk) (intent : Intent) (written : Text) : Except DiskError Arrival :=
  match pathOctets written with
  | .error e => .error e
  | .ok octets =>
    let refuse (e : Errno) : Except DiskError Arrival := .error (.os (.errno e (some written)))
    if octets = [] then refuse .noEntry
    else if pathLimit ≤ octets.length then refuse .nameTooLong
    else
      let start := writtenStart disk.workingDirectory octets
      match resolve disk.top intent linkLimit start (writtenNames octets) with
      | .ok arrival => .ok arrival
      | .error e => refuse e

def locate (disk : Disk) (intent : Intent) (path : Path) : Except DiskError Arrival :=
  disk.locateText intent path.text

/-- What stands where a path leads, links followed at the end or not. -/
def node? (disk : Disk) (follow : Bool) (path : Path) : Except DiskError Node :=
  match disk.locate ⟨follow, false⟩ path with
  | .error e => .error e
  | .ok (.vacant _) => .error (refusal .noEntry path)
  | .ok (.found place) =>
    match disk.top.at? place with
    | some node => .ok node
    | none => .error (refusal .noEntry path)

def isDirectory (disk : Disk) (path : Path) : Bool :=
  match disk.node? true path with
  | .ok node => node.isDirectory
  | .error _ => false

def written? (disk : Disk) (s : Text) : Option Node :=
  match disk.locateText ⟨true, false⟩ s with
  | .ok (.found place) => disk.top.at? place
  | _ => none

def read (disk : Disk) (path : Path) : Except DiskError (List UInt8) :=
  match disk.node? true path with
  | .error e => .error e
  | .ok (.directory _) => .error (refusal .isDirectory path)
  | .ok (.file content) => .ok content
  | .ok _ => .ok []

def put (disk : Disk) (place : Location) (node : Node) : Disk :=
  { disk with top := Node.graft node disk.top place }

/-- Opens what was arrived at for writing: a file is created, or loses its content. Nothing else
than a file can be opened. -/
def openArrival? (disk : Disk) : Arrival → Option (Location × Disk)
  | .vacant place => some (place, disk.put place (.file []))
  | .found place =>
    match disk.top.at? place with
    | some (.file _) => some (place, disk.put place (.file []))
    | some .full => some (place, disk)
    | _ => none

/-- Opens a file for writing: it is created, or loses its content. The answer tells where it is. -/
def openForWriting (disk : Disk) (path : Path) : Except DiskError (Location × Disk) :=
  match disk.locate ⟨true, true⟩ path with
  | .error e => .error e
  | .ok arrival =>
    match disk.openArrival? arrival with
    | some opened => .ok opened
    | none => .error (refusal .isDirectory path)

/-- Writes octets from the beginning of an open file on; what stood behind them stays. False if the
write is refused; a full device refuses even one of nothing. -/
def writeAt (disk : Disk) (place : Location) (octets : List UInt8) : Bool × Disk :=
  match disk.top.at? place with
  | some (.file content) =>
    (true, disk.put place (.file (octets ++ content.drop octets.length)))
  | _ => (false, disk)

/-- Closes an open file, to which what was written so far was only kept back: if that is nothing,
there is no write. -/
def flushAt (disk : Disk) (place : Location) (octets : List UInt8) : Bool × Disk :=
  if octets.isEmpty then (true, disk) else disk.writeAt place octets

def remove (disk : Disk) (path : Path) : Except DiskError Disk :=
  match disk.locate ⟨false, false⟩ path with
  | .error e => .error e
  | .ok (.vacant _) => .error (refusal .noEntry path)
  | .ok (.found place) =>
    match disk.top.at? place with
    | some (.directory _) => .error (refusal .isDirectory path)
    | _ => .ok { disk with top := disk.top.prune place }

def makeLink (disk : Disk) (path : Path) (target : List UInt8) : Except DiskError Disk :=
  match disk.locate ⟨false, false⟩ path with
  | .error e => .error e
  | .ok (.found _) => .error (refusal .fileExists path)
  | .ok (.vacant place) => .ok (disk.put place (.link target))

def makeDirectory (disk : Disk) (path : Path) : Except DiskError Disk :=
  match disk.locate ⟨false, false⟩ path with
  | .error e => .error e
  | .ok (.found _) => .error (refusal .fileExists path)
  | .ok (.vacant place) => .ok (disk.put place (.directory []))

/-- Makes one directory unless it is there. Whether it is there is asked only after a refusal for
another reason than a missing directory above it; if a name met on the way to the answer is too
long, that is told instead. -/
def ensureDirectory (disk : Disk) (path : Path) : Except DiskError Disk :=
  match disk.makeDirectory path with
  | .ok disk => .ok disk
  | .error e =>
    match e with
    | .unencodable _ | .embeddedNul => .error e
    | .os _ =>
      if e = refusal .noEntry path then .error e
      else
        match disk.node? true path with
        | .ok node => if node.isDirectory then .ok disk else .error e
        | .error f => if f = refusal .nameTooLong path then .error f else .error e

/-- Makes the directory of a root and parts, the last part first, and every directory above it that
is missing. -/
def ensureParts (root : Root) : List Text → Disk → Except DiskError Unit × Disk
  | [], disk =>
    match disk.ensureDirectory ⟨root, []⟩ with
    | .ok disk => (.ok (), disk)
    | .error e => (.error e, disk)
  | part :: above, disk =>
    let path : Path := ⟨root, (part :: above).reverse⟩
    match disk.ensureDirectory path with
    | .ok disk => (.ok (), disk)
    | .error e =>
      if e = refusal .noEntry path then
        match ensureParts root above disk with
        | (.error e, disk) => (.error e, disk)
        | (.ok (), disk) =>
          match disk.ensureDirectory path with
          | .ok disk => (.ok (), disk)
          | .error e => (.error e, disk)
      else (.error e, disk)

/-- Makes a directory and every directory above it that is missing. -/
def ensureDirectories (disk : Disk) (path : Path) : Except DiskError Unit × Disk :=
  ensureParts path.root path.parts.reverse disk

end Disk

end Diagnostics
