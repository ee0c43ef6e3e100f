import LeadingDot.CommandLine.Reading
import LeadingDot.Files.Path
import LeadingDot.Log

/-!
# Invocations

What a command line asks for: a command with its arguments, and how much of the log is
shown. The options for the log may stand before the command and after it.
-/

namespace LeadingDot

/-- What is asked of the command that lints. -/
structure LintArguments where
  /-- The file or directory to lint. -/
  path : Path
  /-- The configuration file to use. -/
  config : Option Path
  /-- Name of the format of the report. -/
  format : String
  /-- Names of modifiers that are checked beside the known ones. -/
  additionalModifiers : List String
  /-- Name of the severity of what is found, in place of the configured one. -/
  severity : Option String
  /-- Whether warnings fail the run. -/
  strict : Bool
  /-- Whether the report lists what is suppressed. -/
  listSuppressed : Bool
  deriving DecidableEq, Repr

/-- A command to carry out. -/
inductive Command where
  | lint (arguments : LintArguments)
  /-- Writes a configuration file. -/
  | init (output : Path)
  | rules
  deriving DecidableEq, Repr

/-- A command, and the lines of the log that are shown while it is carried out. -/
structure Invocation where
  logLevel : LogLevel
  command : Command
  deriving DecidableEq, Repr

namespace CommandLine

/-- The value of an option, or its default. -/
def Reading.valueOrDefault (reading : Reading) (spec : CommandSpec) (name : OptionName) :
    String :=
  let default := (spec.options.find? (·.name == name)).bind fun option =>
    option.value.bind (·.default)
  (reading.value? name).getD (default.getD "")

/-- The arguments of the command that lints. -/
def lintArguments (reading : Reading) : Except Usage LintArguments :=
  match reading.argument with
  | none => .error .missingArgument
  | some path =>
    .ok
      { path := .ofString path
        config := (reading.value? .config).map .ofString
        format := reading.valueOrDefault lintSpec .format
        additionalModifiers := reading.values .additionalModifier
        severity := reading.value? .severity
        strict := reading.has .strict
        listSuppressed := reading.has .showSuppressed }

/-- The help that the words after the word for help ask for: each calls a command of the
one before it. -/
def helpFor (spec : CommandSpec) : List String → Usage
  | [] => .help spec
  | word :: words =>
    match spec.command? word with
    | some name => helpFor name.spec words
    | none => .unknownCommand word

/-- The command with a name and the words for it, and what was read of them. -/
def readCommand (name : CommandName) (words : List String) :
    Except Usage (Reading × Command) := do
  match name with
  | .help => throw (helpFor toolSpec words)
  | .lint =>
    let (reading, _) ← Reading.readWords lintSpec {} words
    return (reading, .lint (← lintArguments reading))
  | .init =>
    let (reading, _) ← Reading.readWords initSpec {} words
    return (reading, .init (.ofString (reading.valueOrDefault initSpec .output)))
  | .rules =>
    let (reading, _) ← Reading.readWords rulesSpec {} words
    return (reading, .rules)

/-- The lines of the log that options ask for. -/
def logLevel (readings : List Reading) : LogLevel :=
  if readings.any (·.has .debug) then .debug
  else if readings.any (·.has .verbose) then .info
  else .warn

end CommandLine

/-- Reads the words of a command line. -/
def Invocation.ofWords (words : List String) : Except CommandLine.Usage Invocation := do
  let (top, rest) ← CommandLine.Reading.readWords CommandLine.toolSpec {} words
  match rest with
  | none => throw (if top.isEmpty then .nothing else .missingCommand)
  | some (name, words) =>
    let (reading, command) ← CommandLine.readCommand name words
    return ⟨CommandLine.logLevel [top, reading], command⟩

end LeadingDot
