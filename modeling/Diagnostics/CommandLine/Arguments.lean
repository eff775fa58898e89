import Diagnostics.Text.Quoted
import Diagnostics.Text.Similar

/-!
# Taking a command line apart

A command has options, each known by one or more long names. An option takes a value, which is the
next argument or stands behind an equals sign, or it is a switch. `Arguments.ofList?` goes through
the arguments once and gives every occurrence of an option in order, and the arguments that are
left. Nothing is known here of what the values mean. A name that no option has is told together with
the names of options that are like it.
-/

set_option autoImplicit false

namespace Diagnostics.CommandLine

inductive Parameter where
  | help
  | version
  | logLevel
  | stagingDir
  | catalog
  | trace
  | traceDwell
  | strict
  deriving DecidableEq, Repr

/-- What a name on the command line stands for. -/
inductive Form where
  | valued
  /-- The option is a switch and is set to this. -/
  | switch (on : Bool)
  deriving DecidableEq, Repr

/-- A name, the option it belongs to, and its form. -/
structure OptionName where
  name : Text
  parameter : Parameter
  form : Form
  deriving DecidableEq, Repr

inductive Given where
  | text (s : Text)
  | switch (on : Bool)
  deriving DecidableEq, Repr

inductive UsageError where
  /-- No command has the name; some have names like it. -/
  | noSuchCommand (name : Text) (similar : List Text)
  /-- No option has the name; some have names like it. -/
  | noSuchOption (name : Text) (similar : List Text)
  | missingValue (name : Text)
  | unexpectedValue (name : Text)
  | extraArguments (arguments : List Text)
  | missingCommand
  /-- The value of an option is not accepted, for a reason. -/
  | badValue (name reason : Text)
  deriving DecidableEq, Repr

/-- The question that follows an unknown name if others are like it. They stand in the order of
their texts. -/
def suggestion (similar : List Text) : Text :=
  match similar with
  | [] => ""
  | [name] => " Did you mean " ++ name.quoted ++ "?"
  | names =>
    " (Did you mean one of: " ++ Text.join ", " ((names.map Text.quoted).mergeSort (· ≤ ·)) ++ "?)"

def UsageError.message : UsageError → Text
  | .noSuchCommand name similar =>
    "No such command " ++ name.quoted ++ "." ++ suggestion similar
  | .noSuchOption name similar => "No such option " ++ name.quoted ++ "." ++ suggestion similar
  | .missingValue name => "Option " ++ name.quoted ++ " requires an argument."
  | .unexpectedValue name => "Option " ++ name.quoted ++ " does not take a value."
  | .extraArguments arguments =>
    let noun := if arguments.length = 1 then "argument" else "arguments"
    s!"Got unexpected extra {noun} (" ++ Text.join " " arguments ++ ")"
  | .missingCommand => "Missing command."
  | .badValue name reason => "Invalid value for " ++ name.quoted ++ ": " ++ reason

/-- A command line taken apart. -/
structure Arguments where
  options : List (Parameter × Given)
  /-- The arguments that belong to no option. -/
  rest : List Text
  deriving DecidableEq, Repr

def startsWithDash (argument : Text) : Bool :=
  argument.head? = some '-'

/-- Whether an argument is written like an option. A dash alone is not. -/
def looksLikeOption (argument : Text) : Bool :=
  startsWithDash argument && argument ≠ "-"

/-- An argument up to its first equals sign, and what follows the sign. -/
def splitEquals (argument : Text) : Text × Option Text :=
  let name := argument.takeWhile (· ≠ CodePoint.ofChar '=')
  match argument.drop name.length with
  | [] => (name, none)
  | _ :: value => (name, some value)

/-- The error for a name that no option has. With a single dash only its first letter is told, and
nothing is suggested. -/
def unknown (names : List OptionName) (argument name : Text) : UsageError :=
  if startsWithDash (argument.drop 1) then
    .noSuchOption name (Text.suggestions (names.map (·.name)) name)
  else .noSuchOption (argument.take 2) []

namespace Arguments

def addOption (parameter : Parameter) (given : Given) (a : Arguments) : Arguments :=
  { a with options := (parameter, given) :: a.options }

def addRest (argument : Text) (a : Arguments) : Arguments :=
  { a with rest := argument :: a.rest }

/-- Takes a command line apart. Two dashes end the options; so does the first argument that is none,
unless options may stand behind it. -/
def ofList? (names : List OptionName) (mixed : Bool) : List Text → Except UsageError Arguments
  | [] => .ok ⟨[], []⟩
  | argument :: rest =>
    if argument = "--" then .ok ⟨[], rest⟩
    else if looksLikeOption argument then
      let (name, value) := splitEquals argument
      match names.find? (·.name = name) with
      | none => .error (unknown names argument name)
      | some option =>
        match option.form, value with
        | .switch _, some _ => .error (.unexpectedValue name)
        | .switch on, none =>
          (ofList? names mixed rest).map (addOption option.parameter (.switch on))
        | .valued, some v => (ofList? names mixed rest).map (addOption option.parameter (.text v))
        | .valued, none =>
          match rest with
          | [] => .error (.missingValue name)
          | v :: rest => (ofList? names mixed rest).map (addOption option.parameter (.text v))
    else if mixed then (ofList? names mixed rest).map (addRest argument)
    else .ok ⟨[], argument :: rest⟩

def last? (a : Arguments) (parameter : Parameter) : Option Given :=
  (a.options.reverse.find? (·.1 = parameter)).map (·.2)

def value? (a : Arguments) (parameter : Parameter) : Option Text :=
  match a.last? parameter with
  | some (.text s) => some s
  | _ => none

def switch? (a : Arguments) (parameter : Parameter) : Option Bool :=
  match a.last? parameter with
  | some (.switch on) => some on
  | _ => none

/-- The options that occur, each once, in the order of their first occurrence. -/
def occurring (a : Arguments) : List Parameter :=
  (a.options.map Prod.fst).eraseDups

end Arguments

end Diagnostics.CommandLine
