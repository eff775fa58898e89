import Diagnostics.CommandLine.Arguments
import Diagnostics.Gather
import Diagnostics.Text.ControlSequence

/-!
# The commands

There are two commands, one that gathers and one that shows a catalog, behind a few options that
belong to neither. The values of options are checked command by command, in the order in which the
options occur, before a command does anything; a value that is not accepted is told with the
option's name.

What a command prints are lines, without the sequences that would command a terminal.
-/

set_option autoImplicit false

namespace Diagnostics.CommandLine

def versionLine : String := "diag-bundler, version 0.1.0"

def failuresMessage : String := "Gathering finished with failures."

/-- The options in front of a command. -/
def rootOptions : List OptionName :=
  [⟨"--version", .version, .switch true⟩, ⟨"--log-level", .logLevel, .valued⟩,
    ⟨"--help", .help, .switch true⟩]

def gatherOptions : List OptionName :=
  [⟨"--staging-dir", .stagingDir, .valued⟩, ⟨"--catalog", .catalog, .valued⟩,
    ⟨"--trace", .trace, .switch true⟩, ⟨"--no-trace", .trace, .switch false⟩,
    ⟨"--trace-dwell-seconds", .traceDwell, .valued⟩, ⟨"--strict", .strict, .switch true⟩,
    ⟨"--help", .help, .switch true⟩]

def catalogOptions : List OptionName :=
  [⟨"--catalog", .catalog, .valued⟩, ⟨"--help", .help, .switch true⟩]

def logLevels : List Text := ["debug", "info", "warning", "error"]

/-! ## Values -/

/-- A level, in letters of either case. No letter outside ASCII turns into one of these. -/
def checkLogLevel (value : Text) : Except UsageError Unit :=
  if value.map CodePoint.toLower ∈ logLevels then .ok ()
  else
    let choices := Text.join ", " (logLevels.map Text.quoted)
    .error (.badValue "--log-level" (value.quoted ++ " is not one of " ++ choices ++ "."))

/-- A number of seconds that is not negative. -/
def dwellValue (value : Text) : Except UsageError Binary64 :=
  match Numeral.binary64? value with
  | none =>
    .error (.badValue "--trace-dwell-seconds" (value.quoted ++ " is not a valid float range."))
  | some x =>
    if x < 0 then .error (.badValue "--trace-dwell-seconds" s!"{x.text} is not in the range x>=0.")
    else .ok x

/-- Why the value of an option is not taken: it is not accepted, or the disk cannot be asked about
it. -/
inductive Refusal where
  | usage (error : UsageError)
  | disk (error : DiskError)
  deriving DecidableEq, Repr

/-- What stands where a written path leads, if the disk can be asked. -/
def askDisk (disk : Disk) (value : Text) : Except Refusal (Option Node) :=
  match Disk.pathOctets value with
  | .error e => .error (.disk e)
  | .ok _ => .ok (disk.written? value)

/-- A path as it is told: octets that are no UTF-8 show as U+FFFD. -/
def shownPath (value : Text) : Text :=
  match Text.Utf8.encodeName value with
  | .ok octets => Text.ofChars (Text.Utf8.decodeLossy octets)
  | .error _ => value

/-- The path of a directory, which is not a file; it need not exist. -/
def stagingValue (disk : Disk) (value : Text) : Except Refusal Path := do
  match ← askDisk disk value with
  | some (.file _) =>
    let reason := "Directory " ++ (shownPath value).quoted ++ " is a file."
    throw (.usage (.badValue "--staging-dir" reason))
  | _ => return Path.ofText value

/-- The path of a file, which is not a directory; it need not exist. -/
def catalogValue (disk : Disk) (value : Text) : Except Refusal Path := do
  match ← askDisk disk value with
  | some (.directory _) =>
    let reason := "File " ++ (shownPath value).quoted ++ " is a directory."
    throw (.usage (.badValue "--catalog" reason))
  | _ => return Path.ofText value

def checkValue (disk : Disk) (a : Arguments) (parameter : Parameter) : Except Refusal Unit :=
  match parameter, a.value? parameter with
  | .logLevel, some v => (checkLogLevel v).mapError .usage
  | .traceDwell, some v => ((dwellValue v).map fun _ => ()).mapError .usage
  | .stagingDir, some v => (stagingValue disk v).map fun _ => ()
  | .catalog, some v => (catalogValue disk v).map fun _ => ()
  | _, _ => .ok ()

def checkValues (disk : Disk) (a : Arguments) : List Parameter → Except Refusal Unit
  | [] => .ok ()
  | p :: ps =>
    match checkValue disk a p with
    | .ok () => checkValues disk a ps
    | .error e => .error e

/-! ## Running a command -/

inductive Outcome where
  | done
  /-- The version or the help was asked for. -/
  | informed
  | usage (error : UsageError)
  | failed (message : Text)
  /-- A fault that is not the user's. -/
  | faulted (fault : GatherFault)
  deriving DecidableEq, Repr

/-- The printed text, how it ended, and the host afterwards. -/
structure Transcript where
  outcome : Outcome
  printed : Text
  host : Host

def printLines (lines : List Text) : Text :=
  lines.flatMap fun line => Text.dropControlSequences line ++ "\n"

/-- The outcome of a fault: told to the user if it is about a value, passed on otherwise. -/
def Outcome.ofFault (fault : GatherFault) : Outcome :=
  if fault.isAboutValue then .failed fault.message else .faulted fault

def Outcome.ofRefusal : Refusal → Outcome
  | .usage e => .usage e
  | .disk e => .faulted (.run e.toFault)

def pathOption (a : Arguments) (parameter : Parameter) : Option Path :=
  (a.value? parameter).map Path.ofText

def gatherRequest (a : Arguments) : GatherRequest where
  staging := pathOption a .stagingDir
  catalog := pathOption a .catalog
  includeTrace := a.switch? .trace
  traceDwell := (a.value? .traceDwell).bind Numeral.binary64?
  strict := (a.switch? .strict).getD false

/-- Gathers, prints the lines of the result, and fails after that if a strict run had failures. -/
def runGather (env : Environment) (a : Arguments) (host : Host) : Transcript :=
  match gather env none (gatherRequest a) host with
  | (.error fault, host) => ⟨.ofFault fault, "", host⟩
  | (.ok result, host) =>
    ⟨if result.success then .done else .failed failuresMessage, printLines result.lines, host⟩

def runCatalog (env : Environment) (a : Arguments) (host : Host) : Transcript :=
  match listCatalog env (pathOption a .catalog) host.disk with
  | .error fault => ⟨.ofFault fault, "", host⟩
  | .ok lines => ⟨.done, printLines lines, host⟩

/-- A command: its options, and what it does. -/
structure Command where
  options : List OptionName
  run : Environment → Arguments → Host → Transcript

def commands : List (Text × Command) :=
  [("gather", ⟨gatherOptions, runGather⟩), ("catalog", ⟨catalogOptions, runCatalog⟩)]

/-- Runs a command with its arguments, whose options may stand anywhere. -/
def Command.runWith (command : Command) (env : Environment) (arguments : List Text)
    (host : Host) : Transcript :=
  match Arguments.ofList? command.options true arguments with
  | .error e => ⟨.usage e, "", host⟩
  | .ok a =>
    if (a.switch? .help).isSome then ⟨.informed, "", host⟩
    else
      match checkValues host.disk a a.occurring with
      | .error e => ⟨.ofRefusal e, "", host⟩
      | .ok () =>
        if a.rest.isEmpty then command.run env a host
        else ⟨.usage (.extraArguments a.rest), "", host⟩

/-- The options in front of a command, and the arguments from the command on: what they ask for
before any command is looked at. -/
def runRoot (arguments : List Text) (host : Host) : Transcript ⊕ List Text :=
  match Arguments.ofList? rootOptions false arguments with
  | .error e => .inl ⟨.usage e, "", host⟩
  | .ok a =>
    match a.occurring.find? fun p => p = .version ∨ p = .help with
    | some .version => .inl ⟨.informed, printLines [versionLine], host⟩
    | some _ => .inl ⟨.informed, "", host⟩
    | none =>
      match checkValues host.disk a a.occurring with
      | .error e => .inl ⟨.ofRefusal e, "", host⟩
      | .ok () => .inr a.rest

/-- Runs a command line. A name that is no command's but is written like an option, which
two dashes in front of it allow, is looked at as options once more: that tells a misplaced option
better than a missing command does. -/
def run (env : Environment) (arguments : List Text) (host : Host) : Transcript :=
  match runRoot arguments host with
  | .inl transcript => transcript
  | .inr [] => ⟨.usage .missingCommand, "", host⟩
  | .inr (name :: rest) =>
    match commands.lookup name with
    | some command => command.runWith env rest host
    | none =>
      let similar := Text.suggestions (commands.map Prod.fst) name
      let missing : Transcript := ⟨.usage (.noSuchCommand name similar), "", host⟩
      if looksLikeOption name then
        match runRoot (name :: rest) host with
        | .inl transcript => transcript
        | .inr _ => missing
      else missing

end Diagnostics.CommandLine
