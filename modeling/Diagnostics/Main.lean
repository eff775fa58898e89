import Diagnostics.CommandLine.Command

/-!
# The program

The commands work on a host, which is a value. This module takes a picture of the real one, runs
the command line on it, and brings what has changed back: the printed text, the status, and the
files below the working directory. The picture holds the environment and the files; it knows no
programs and no query service, so every task that needs one ends in a failure of its own and the
report says so.
-/

set_option autoImplicit false

namespace Diagnostics.Program

/-- The variables that a picture holds. -/
def environmentVariables : List Variable :=
  [.stagingDir, .catalogPath, .includeTrace, .traceDwell, .queryAttempts, .queryRetryDelay,
    .maxWorkers, .powershell, .queryTimeout]

def environment : IO Environment := do
  let values ← environmentVariables.mapM fun v => do return (v.name, ← IO.getEnv v.name)
  return fun name => (values.lookup name).join.map Text.ofString

def fileName (name : String) : FileName :=
  name.toUTF8.toList

/-- Where the files of a picture are. -/
def place : Location := [fileName "host", fileName "here"]

/-- The entries of a directory below the working directory. A link is shown as one that leads
nowhere. -/
partial def entries (directory : List String) : IO (List (FileName × Node)) := do
  let found ← (System.mkFilePath ("." :: directory)).readDir
  found.toList.mapM fun entry => do
    let path := System.mkFilePath ("." :: directory ++ [entry.fileName])
    let name := fileName entry.fileName
    let node : Node ←
      match (← path.symlinkMetadata).type with
      | .dir => do pure (.directory (← entries (directory ++ [entry.fileName])))
      | .file => do pure (.file (← IO.FS.readBinFile path).toList)
      | _ => pure (.link name)
    return (name, node)

def picture : IO Host := do
  let here ← entries []
  let inner : Node := .directory [(fileName "here", .directory here)]
  return {
    disk :=
      { top := .directory [(fileName "host", inner)]
        workingDirectory := place
        unlistable := [] }
    programs := fun _ => none
    started := fun _ => 0
    answers := fun _ _ => .failed (.query (.reported "There is no query service."))
    asked := fun _ => 0
    cancelled := false
    calls := [] }

/-- Brings the files and directories that a picture holds to the real directory. -/
partial def bringBack (old : List (FileName × Node)) (directory : List String) :
    List (FileName × Node) → IO Unit
  | [] => return ()
  | (name, node) :: rest => do
    let shown := (Text.Utf8.decodeName name).shown
    let path := System.mkFilePath ("." :: directory ++ [shown])
    match node, Node.entry? name old with
    | .file content, some (.file before) =>
      if content != before then IO.FS.writeBinFile path ⟨content.toArray⟩
    | .file content, _ => IO.FS.writeBinFile path ⟨content.toArray⟩
    | .directory inner, before =>
      IO.FS.createDirAll path
      let innerOld := match before with | some (.directory es) => es | _ => []
      bringBack innerOld (directory ++ [shown]) inner
    | _, _ => pure ()
    bringBack old directory rest

/-- The entries below the working directory of a picture. -/
def below (disk : Disk) : List (FileName × Node) :=
  match disk.top.at? place with
  | some (.directory es) => es
  | _ => []

def ending : CommandLine.Outcome → Option Text × UInt32
  | .done | .informed => (none, 0)
  | .usage e => (some e.message, 2)
  | .failed message => (some message, 1)
  | .faulted fault => (some fault.message, 1)

end Diagnostics.Program

open Diagnostics.Program in
def main (arguments : List String) : IO UInt32 := do
  let host ← picture
  let arguments := arguments.map Diagnostics.Text.ofString
  let transcript := Diagnostics.CommandLine.run (← environment) arguments host
  IO.print transcript.printed.shown
  bringBack (below host.disk) [] (below transcript.host.disk)
  let (words, status) := ending transcript.outcome
  match words with
  | some words => IO.eprintln words.shown
  | none => pure ()
  return status
