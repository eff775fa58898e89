import Diagnostics.Session
import Diagnostics.Text.Lines
import Diagnostics.Text.Utf8

/-!
# Structured queries

A query asks for the objects of a class in a namespace and is answered with a text. There are two
ways to put it: to a query service directly, or through PowerShell (`Cim.ask`), which is started
with a command line made from the class and the namespace.

The namespace stands between apostrophes in that command, and an apostrophe inside it is doubled,
so that it ends where it should whatever it holds. The answer is whatever PowerShell printed, read
leniently: an ill-formed octet sequence becomes U+FFFD and newlines are unified.
-/

set_option autoImplicit false

namespace Diagnostics

inductive Backend where
  | service
  /-- PowerShell, with a limit on its time. -/
  | cim (powershell : Text) (timeout : Option Binary64)
  deriving DecidableEq, Repr

namespace Cim

/-- The namespace as it stands between apostrophes. -/
def doubleQuotes (s : Text) : Text :=
  s.flatMap fun (c : CodePoint) => if c = '\'' then [c, c] else [c]

def command (className namespaceName : Text) : Text :=
  "Get-CimInstance -ClassName " ++ className ++ " -Namespace '" ++ doubleQuotes namespaceName ++
    "' | Format-List -Property *"

def argv (powershell className namespaceName : Text) : List Text :=
  [powershell, "-NoProfile", "-NonInteractive", "-Command", command className namespaceName]

def printed (octets : List UInt8) : Text :=
  Text.ofChars (Text.unifyNewlines (Text.Utf8.decodeLossy octets))

/-- What is shown of a failed query: the first line that is printed to the error output, or to the
ordinary output if nothing is there. -/
def detail (stdout stderr : List UInt8) : Text :=
  let err := printed stderr
  match (if err.isEmpty then printed stdout else err).strip with
  | [] => "no output"
  | s => s.firstLine

/-- Puts one query through PowerShell. A refused start is a failed query, and so is every end but
a status of zero in time. -/
def ask (powershell : Text) (timeout : Option Binary64) (className namespaceName : Text) :
    Action Text := do
  let started ← Action.attempt
    (Action.start (argv powershell className namespaceName) timeout .capture)
  match started with
  | .error (.os fault) =>
    match fault with
    | .errno ⟨2⟩ _ => throw (.query (.noShell powershell))
    | fault => throw (.query (.notStarted fault))
  | .error fault => throw fault
  | .ok .timedOut => throw (.query (.timedOut className namespaceName (timeout.getD 0)))
  | .ok (.exited code stdout stderr) =>
    if code = 0 then return printed stdout
    else throw (.query (.exitStatus className namespaceName code (detail stdout stderr)))

end Cim

def Backend.ask (backend : Backend) (className namespaceName : Text) : Action Text :=
  match backend with
  | .service => Action.query className namespaceName
  | .cim powershell timeout => Cim.ask powershell timeout className namespaceName

end Diagnostics
