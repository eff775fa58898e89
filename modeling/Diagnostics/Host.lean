import Diagnostics.Failure

/-!
# The machine that diagnostics are gathered from

A `Host` is everything outside the run that the run can touch: the disk, the programs that can be
started, the query service, the user's wish to cancel, and a record of the calls made so far.

How a program or the query service behaves is given beforehand, as a sequence of outcomes for each
name: its k-th start takes the k-th outcome. So the host is a value, a run is a function on it, and
two runs can be compared that differ in one outcome alone.
-/

set_option autoImplicit false

namespace Diagnostics

/-- What a program does once it has been started. -/
structure Completion where
  /-- The user interrupts the run meanwhile. -/
  cancels : Bool
  /-- Files it writes: the argument that names the file, and the content. -/
  writes : List (Nat × List UInt8)
  stdout : List UInt8
  stderr : List UInt8
  seconds : Binary64
  exitCode : Int
  deriving DecidableEq, Repr

inductive Launch where
  | refused (e : Errno)
  | completed (completion : Completion)
  deriving DecidableEq, Repr

inductive Answer where
  | text (s : Text)
  | failed (fault : Fault)
  deriving DecidableEq, Repr

/-- Where the output of a program goes: into an open file, nowhere, or to the caller. -/
inductive Redirect where
  | file (place : Location)
  | discard
  | capture
  deriving DecidableEq, Repr

inductive Channel where
  | file
  | discard
  | capture
  deriving DecidableEq, Repr

def Redirect.channel : Redirect → Channel
  | .file _ => .file
  | .discard => .discard
  | .capture => .capture

inductive Call where
  | run (argv : List Text) (timeout : Option Binary64) (stdout : Channel)
  | query (className namespaceName : Text)
  | wait (seconds : Binary64) (cancelled : Bool)
  deriving DecidableEq, Repr

structure Host where
  disk : Disk
  /-- The programs there are, each with the outcomes of its starts. -/
  programs : Text → Option (Nat → Launch)
  /-- How often each program was started. -/
  started : Text → Nat
  /-- The outcomes of asking for a class. -/
  answers : Text → Nat → Answer
  /-- How often each class was asked for. -/
  asked : Text → Nat
  /-- The user has asked for the run to be cut short. -/
  cancelled : Bool
  calls : List Call
  platform : Platform := .posix

namespace Host

def bump (counts : Text → Nat) (name : Text) : Text → Nat :=
  fun n => if n = name then counts n + 1 else counts n

/-- The outcomes of a program. No program has the empty name. -/
def program? (host : Host) (executable : Text) : Option (Nat → Launch) :=
  if executable = "" then none else host.programs executable

def note (host : Host) (call : Call) : Host :=
  { host with calls := host.calls ++ [call] }

end Host

/-- Replaces the content of the file at a path. False if it could not be: there is no file at the
path that can be opened, or it does not take the octets. -/
def Disk.overwrite (disk : Disk) (path : Path) (octets : List UInt8) : Bool × Disk :=
  match disk.openForWriting path with
  | .ok (place, disk) => disk.flushAt place octets
  | .error _ => (false, disk)

/-- The files that a program writes, one after another. False if one of them could not be: there
is no such argument, or the file that it names cannot be written. -/
def Disk.writeArguments (argv : List Text) : List (Nat × List UInt8) → Disk → Bool × Disk
  | [], disk => (true, disk)
  | (index, octets) :: writes, disk =>
    let (wrote, disk) :=
      match argv[index]? with
      | some argument => disk.overwrite (Path.ofText argument) octets
      | none => (false, disk)
    let (wroteRest, disk) := writeArguments argv writes disk
    (wrote && wroteRest, disk)

/-- The status of a program that could not write one of its files. -/
def unwritableStatus : Int := 74

/-- How a started program came to an end. -/
inductive Ending where
  | exited (code : Int) (stdout stderr : List UInt8)
  /-- It was still running when its time was up. -/
  | timedOut
  deriving DecidableEq, Repr

namespace Host

/-- A program does its work: it writes its files, then its output where that goes, also if there is
none. A refused output shows only where it is handed over to be written, and there it is a failure
of the start; a program that writes for itself is judged by its time and its status alone. -/
def perform (host : Host) (argv : List Text) (timeout : Option Binary64) (redirect : Redirect)
    (c : Completion) : Except Fault Ending × Host :=
  let (wrote, disk) := host.disk.writeArguments argv c.writes
  let (taken, disk) :=
    match redirect with
    | .file place => disk.writeAt place (c.stdout ++ c.stderr)
    | .discard | .capture => (true, disk)
  let host := { host with disk := disk, cancelled := host.cancelled || c.cancels }
  if host.platform.relaysOutput && !taken then (.error (.os (.errno .noSpace none)), host)
  else if timeout.any (· < c.seconds) then (.ok .timedOut, host)
  else
    (.ok (.exited (if wrote then c.exitCode else unwritableStatus) c.stdout c.stderr), host)

/-- The fault of the first word that cannot be handed to the operating system. -/
def argvFault? : List Text → Option Fault
  | [] => none
  | word :: words =>
    match Disk.pathOctets word with
    | .ok _ => argvFault? words
    | .error e => some e.toFault

/-- Why the time limit of a program cannot be kept. Only output that goes to the caller is polled
for. -/
def limitError? (host : Host) (timeout : Option Binary64) : Redirect → Option TimeError
  | .capture => timeout.bind host.platform.pollError?
  | .file _ | .discard => none

/-- Starts a program and waits for its end. The call is recorded whatever becomes of it. The words
are looked at before the program is looked for, and its time limit only once it has been started:
a program whose limit cannot be kept is killed before it has done anything. -/
def start (host : Host) (argv : List Text) (timeout : Option Binary64) (redirect : Redirect) :
    Except Fault Ending × Host :=
  let executable := argv.headD ""
  let host := host.note (.run argv timeout redirect.channel)
  match argvFault? argv with
  | some fault => (.error fault, host)
  | none =>
    match host.program? executable with
    | none => (.error (.os (.errno .noEntry (some executable))), host)
    | some outcomes =>
      let outcome := outcomes (host.started executable)
      let host := { host with started := bump host.started executable }
      match outcome with
      | .refused e => (.error (.os (.errno e (some executable))), host)
      | .completed c =>
        match host.limitError? timeout redirect with
        | some e => (.error (.untimed e), host)
        | none => host.perform argv timeout redirect c

def ask (host : Host) (className namespaceName : Text) : Except Fault Text × Host :=
  let answer := host.answers className (host.asked className)
  let host := host.note (.query className namespaceName)
  let host := { host with asked := bump host.asked className }
  match answer with
  | .text s => (.ok s, host)
  | .failed fault => (.error fault, host)

/-- Why a wait cannot be timed. One that has been cut short is not timed at all. -/
def waitError? (host : Host) (seconds : Binary64) : Option TimeError :=
  if host.cancelled then none else host.platform.waitError? seconds

/-- Waits, unless the run is or gets cancelled. The call is recorded whatever becomes of it. -/
def wait (host : Host) (seconds : Binary64) : Except Fault Unit × Host :=
  let outcome :=
    match host.waitError? seconds with
    | some e => .error (.untimed e)
    | none => .ok ()
  (outcome, host.note (.wait seconds host.cancelled))

end Host

end Diagnostics
