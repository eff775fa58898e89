import Diagnostics.FileTree
import Diagnostics.Host

/-!
# Work on a host that records failures

Gathering is work on a `Session`: the host, and the failures recorded so far. What the work can ask
of it is a `Request`, and each request is answered in one go. An `Action` is a piece of work as a
tree: it has ended, with a value or with a fault, or it makes a request and goes on in a way that
depends on the answer.

So the work is told apart from the session that it is done on. `Action.settle` does all of it on
one session; and where several pieces of work share a session, they take turns request by request.
Nothing is ever undone: what was done before a fault stays.
-/

set_option autoImplicit false

namespace Diagnostics

/-- The host, and the failures recorded so far in the order in which they were. -/
structure Session where
  host : Host
  failures : List Failure

/-- What a piece of work can ask of a session. -/
inductive Request where
  | openFile (path : Path)
  /-- Writes to an open file and closes it. -/
  | closeFile (place : Location) (octets : List UInt8)
  | ensureDirectories (path : Path)
  | collect (roots : List Path)
  | start (argv : List Text) (timeout : Option Binary64) (redirect : Redirect)
  | query (className namespaceName : Text)
  | wait (seconds : Binary64)
  | record (failure : Failure)
  | recorded
  deriving DecidableEq, Repr

@[reducible] def Request.Answer : Request → Type
  | .openFile _ => Except Fault Location
  | .closeFile _ _ => Bool
  | .ensureDirectories _ => Except Fault Unit
  | .collect _ => Except Fault (List Path × List TaskError)
  | .start _ _ _ => Except Fault Ending
  | .query _ _ => Except Fault Text
  | .wait _ => Except Fault Unit
  | .record _ => Unit
  | .recorded => List Failure

namespace Session

def withHost (s : Session) (host : Host) : Session :=
  { s with host := host }

def withDisk (s : Session) (disk : Disk) : Session :=
  s.withHost { s.host with disk := disk }

@[simp] theorem withHost_host (s : Session) (host : Host) : (s.withHost host).host = host := rfl

@[simp] theorem withHost_failures (s : Session) (host : Host) :
    (s.withHost host).failures = s.failures := rfl

@[simp] theorem withDisk_disk (s : Session) (disk : Disk) : (s.withDisk disk).host.disk = disk :=
  rfl

@[simp] theorem withDisk_failures (s : Session) (disk : Disk) :
    (s.withDisk disk).failures = s.failures := rfl

def answer (s : Session) : (r : Request) → r.Answer × Session
  | .openFile path =>
    match s.host.disk.openForWriting path with
    | .ok (place, disk) => (.ok place, s.withDisk disk)
    | .error e => (.error e.toFault, s)
  | .closeFile place octets =>
    let (taken, disk) := s.host.disk.flushAt place octets
    (taken, s.withDisk disk)
  | .ensureDirectories path =>
    let (outcome, disk) := s.host.disk.ensureDirectories path
    (outcome.mapError DiskError.toFault, s.withDisk disk)
  | .collect roots => ((s.host.disk.collect roots).mapError DiskError.toFault, s)
  | .start argv timeout redirect =>
    let (outcome, host) := s.host.start argv timeout redirect
    (outcome, s.withHost host)
  | .query className namespaceName =>
    let (outcome, host) := s.host.ask className namespaceName
    (outcome, s.withHost host)
  | .wait seconds =>
    let (outcome, host) := s.host.wait seconds
    (outcome, s.withHost host)
  | .record failure => ((), { s with failures := s.failures ++ [failure] })
  | .recorded => (s.failures, s)

end Session

/-- A piece of work that ends with a value or with a fault. -/
inductive Action (α : Type) where
  | done (outcome : Except Fault α)
  /-- The work makes a request and goes on with the answer. -/
  | request (r : Request) (next : r.Answer → Action α)

namespace Action

variable {α β : Type}

/-- One piece of work after another; the second is not done if the first ends with a fault. -/
def bind : Action α → (α → Action β) → Action β
  | .done (.ok a), after => after a
  | .done (.error fault), _ => .done (.error fault)
  | .request r next, after => .request r fun x => (next x).bind after

instance : Monad Action where
  pure a := .done (.ok a)
  bind := bind

/-- The same work, with a fault as its value. -/
def attempt : Action α → Action (Except Fault α)
  | .done outcome => .done (.ok outcome)
  | .request r next => .request r fun x => (next x).attempt

instance : MonadExceptOf Fault Action where
  throw fault := .done (.error fault)
  tryCatch work handle := do
    match ← work.attempt with
    | .ok a => return a
    | .error fault => handle fault

/-- Does a piece of work on a session: how it ends, and the session it leaves. -/
def settle : Action α → Session → Except Fault α × Session
  | .done outcome, s => (outcome, s)
  | .request r next, s =>
    let answered := s.answer r
    (next answered.1).settle answered.2

/-- How a piece of work ends, with a value or with a fault. -/
def run (work : Action α) (s : Session) : EStateM.Result Fault Session α :=
  match work.settle s with
  | (.ok a, t) => .ok a t
  | (.error fault, t) => .error fault t

instance : CoeFun (Action α) fun _ => Session → EStateM.Result Fault Session α :=
  ⟨run⟩

/-! ## Single requests -/

def openFile (path : Path) : Action Location :=
  .request (.openFile path) .done

def ensureDirectories (path : Path) : Action Unit :=
  .request (.ensureDirectories path) .done

/-- Lists the files below roots, and an error for each root that was not walked to the end. -/
def collect (roots : List Path) : Action (List Path × List TaskError) :=
  .request (.collect roots) .done

def start (argv : List Text) (timeout : Option Binary64) (redirect : Redirect) : Action Ending :=
  .request (.start argv timeout redirect) .done

def query (className namespaceName : Text) : Action Text :=
  .request (.query className namespaceName) .done

def wait (seconds : Binary64) : Action Unit :=
  .request (.wait seconds) .done

def recordFailure (failure : Failure) : Action Unit :=
  .request (.record failure) fun x => .done (.ok x)

def recorded : Action (List Failure) :=
  .request .recorded fun failures => .done (.ok failures)

end Action

end Diagnostics
