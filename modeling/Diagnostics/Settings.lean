import Diagnostics.Number.Numeral
import Diagnostics.Number.Shortest
import Diagnostics.Path
import Diagnostics.Text.Quoted

/-!
# Settings

Settings come from environment variables, each with a default. Reading them (`Settings.ofEnv`)
fails at the first variable whose text is not of the right form, in the order of the fields here;
whether the values are in range is a question of its own (`Settings.validate`), asked only after
the command line has had its say.
-/

set_option autoImplicit false

namespace Diagnostics

abbrev Environment := String → Option Text

structure Settings where
  staging : Path
  catalog : Option Path
  includeTrace : Bool
  /-- How long every trace runs, whatever the catalog says. -/
  traceDwell : Option Binary64
  queryAttempts : Int
  queryRetryDelay : Binary64
  maxWorkers : Option Int
  powershell : Text
  queryTimeout : Binary64
  deriving DecidableEq, Repr

/-- The environment variables that settings are read from. -/
inductive Variable where
  | stagingDir
  | catalogPath
  | includeTrace
  | traceDwell
  | queryAttempts
  | queryRetryDelay
  | maxWorkers
  | powershell
  | queryTimeout
  deriving DecidableEq, Repr

def Variable.name : Variable → String
  | .stagingDir => "DIAG_BUNDLER_STAGING_DIR"
  | .catalogPath => "DIAG_BUNDLER_CATALOG_PATH"
  | .includeTrace => "DIAG_BUNDLER_INCLUDE_TRACE"
  | .traceDwell => "DIAG_BUNDLER_TRACE_DWELL_SECONDS"
  | .queryAttempts => "DIAG_BUNDLER_QUERY_MAX_ATTEMPTS"
  | .queryRetryDelay => "DIAG_BUNDLER_QUERY_RETRY_DELAY_SECONDS"
  | .maxWorkers => "DIAG_BUNDLER_MAX_WORKERS"
  | .powershell => "DIAG_BUNDLER_POWERSHELL"
  | .queryTimeout => "DIAG_BUNDLER_QUERY_TIMEOUT_SECONDS"

inductive SettingsError where
  | invalidBoolean (v : Variable) (value : Text)
  | invalidInteger (value : Text)
  /-- An integer has more digits than are read. -/
  | tooManyDigits (count : Nat)
  | invalidNumber (value : Text)
  | catalogRequired
  /-- A value is out of range; the text says how it compares with the bound it has to respect. -/
  | outOfRange (v : Variable) (bound : String)
  deriving DecidableEq, Repr

/-- How much of a quoted value is told when it is no integer. -/
def integerQuoteLimit : Nat := 200

def SettingsError.message : SettingsError → Text
  | .invalidBoolean v value => s!"Invalid boolean value for {v.name}: " ++ value.quoted
  | .invalidInteger value =>
    "invalid literal for int() with base 10: " ++ value.quoted.take integerQuoteLimit
  | .tooManyDigits count => Numeral.tooManyDigitsMessage count
  | .invalidNumber value => "could not convert string to float: " ++ value.quoted
  | .catalogRequired =>
    "A group catalog is required. Set DIAG_BUNDLER_CATALOG_PATH or pass --catalog."
  | .outOfRange v bound => s!"{v.name} must be {bound}."

namespace Settings

def value? (env : Environment) (v : Variable) : Option Text :=
  env v.name

/-- The value of a variable without the blanks at its ends, if anything is left of it. -/
def stripped? (env : Environment) (v : Variable) : Option Text :=
  (value? env v).map Text.strip |>.filter (· ≠ [])

/-- A truth value. Only ASCII letters have a second case here, as no other letter turns into one
of those of these words. -/
def bool (v : Variable) (value : Text) : Except SettingsError Bool :=
  let word := value.strip.map CodePoint.toLower
  if word ∈ (["1", "true", "yes", "on"] : List Text) then .ok true
  else if word ∈ (["0", "false", "no", "off"] : List Text) then .ok false
  else .error (.invalidBoolean v value)

def integer (value : Text) : Except SettingsError Int :=
  match Numeral.excessDigits? value with
  | some count => .error (.tooManyDigits count)
  | none =>
    match Numeral.integer? value with
    | some i => .ok i
    | none => .error (.invalidInteger value)

def number (value : Text) : Except SettingsError Binary64 :=
  match Numeral.binary64? value with
  | some x => .ok x
  | none => .error (.invalidNumber value)

def optional {α : Type} (read : Text → Except SettingsError α) :
    Option Text → Except SettingsError (Option α)
  | none => .ok none
  | some s => (read s).map some

/-- Reads settings. A staging directory given here goes before the variable. -/
def ofEnv (env : Environment) (staging : Option Path) : Except SettingsError Settings := do
  let includeTrace ← optional (bool .includeTrace) (value? env .includeTrace)
  let traceDwell ← optional number (stripped? env .traceDwell)
  let queryAttempts ← integer ((value? env .queryAttempts).getD "3")
  let queryRetryDelay ← number ((value? env .queryRetryDelay).getD "0")
  let maxWorkers ← optional integer (stripped? env .maxWorkers)
  let queryTimeout ← number ((value? env .queryTimeout).getD "120")
  return {
    staging := staging.getD (Path.ofText ((value? env .stagingDir).getD "diag_bundle"))
    catalog := (stripped? env .catalogPath).map Path.ofText
    includeTrace := includeTrace.getD false
    traceDwell
    queryAttempts
    queryRetryDelay
    maxWorkers
    powershell := (value? env .powershell).getD "powershell.exe"
    queryTimeout }

/-- Refuses settings without a catalog and values that are out of range. A value that is not a
number compares with nothing and is not refused. -/
def validate (s : Settings) : Except SettingsError Unit :=
  if s.catalog.isNone then .error .catalogRequired
  else if s.queryAttempts < 1 then .error (.outOfRange .queryAttempts ">= 1")
  else if s.queryRetryDelay < 0 then .error (.outOfRange .queryRetryDelay ">= 0")
  else if s.traceDwell.any (· < 0) then .error (.outOfRange .traceDwell ">= 0")
  else if s.maxWorkers.any (· < 1) then .error (.outOfRange .maxWorkers ">= 1")
  else if s.queryTimeout ≤ 0 then .error (.outOfRange .queryTimeout "> 0")
  else .ok ()

end Settings

end Diagnostics
