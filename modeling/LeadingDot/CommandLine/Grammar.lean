import LeadingDot.Tool

/-!
# Commands and their options

What may stand on the command line: the commands of the tool, and the options and
arguments of each of them, with what help says of them.
-/

namespace LeadingDot.CommandLine

/-- The options of the tool and of its commands. -/
inductive OptionName where
  | verbose
  | debug
  | help
  | version
  | config
  | format
  | additionalModifier
  | severity
  | strict
  | showSuppressed
  | output
  deriving DecidableEq, Repr

/-- The value that an option takes. -/
structure OptionValue where
  /-- What help calls the value. -/
  name : String
  /-- Whether the value is a path, which is not empty. -/
  isPath : Bool
  /-- The value if the option is not given. -/
  default : Option String
  deriving DecidableEq, Repr

/-- An option. -/
structure OptionSpec where
  name : OptionName
  short : Option Char
  long : String
  /-- The value that it takes, if it takes one. -/
  value : Option OptionValue
  /-- Whether it may be given several times. -/
  repeatable : Bool
  /-- What help says of it. -/
  about : String
  deriving DecidableEq, Repr

/-- How an option is named in messages. -/
def OptionSpec.display (option : OptionSpec) : String :=
  "--" ++ option.long ++ (option.value.elim "" fun value => " <" ++ value.name ++ ">")

/-- An argument that is no option. -/
structure ArgumentSpec where
  /-- How the argument is named in messages. -/
  display : String
  about : String
  deriving DecidableEq, Repr

/-- The commands of the tool. -/
inductive CommandName where
  | lint
  | init
  | rules
  | help
  deriving DecidableEq, Repr

/-- The tool or one of its commands. -/
structure CommandSpec where
  /-- What follows the tool's name in the usage line. -/
  usage : String
  about : String
  argument : Option ArgumentSpec
  options : List OptionSpec
  /-- The commands that may follow, with what help says of them. -/
  commands : List (CommandName × String)
  deriving DecidableEq, Repr

/-- An option without a value. -/
def flag (name : OptionName) (short : Option Char) (long about : String) : OptionSpec :=
  ⟨name, short, long, none, false, about⟩

/-- An option with a value. -/
def valued (name : OptionName) (short : Char) (long : String) (value : OptionValue)
    (about : String) : OptionSpec :=
  ⟨name, some short, long, some value, false, about⟩

def verboseOption : OptionSpec := flag .verbose (some 'v') "verbose" "Enable info-level logging"

def debugOption : OptionSpec := flag .debug none "debug" "Enable debug-level logging"

def helpOption : OptionSpec := flag .help (some 'h') "help" "Print help"

def versionOption : OptionSpec := flag .version (some 'V') "version" "Print version"

/-- The name by which a command is called. -/
def CommandName.word : CommandName → String
  | lint => "lint"
  | init => "init"
  | rules => "rules"
  | help => "help"

/-- What help says of a command. -/
def CommandName.about : CommandName → String
  | lint => "Lint Swift sources for missing leading dots"
  | init => "Write a default configuration file"
  | rules => "List the available rules"
  | help => "Print this message or the help of the given subcommand(s)"

/-- Another name by which a command is called. -/
def CommandName.otherWord? : CommandName → Option String
  | lint => some "check"
  | _ => none

/-- The command that a word calls. -/
def CommandName.ofWord? (word : String) : Option CommandName :=
  [lint, init, rules, help].find? fun name => name.word == word || name.otherWord? == some word

/-- What follows the name of a command in a list of commands. -/
def CommandName.listing (name : CommandName) : String :=
  name.about ++ (name.otherWord?.elim "" fun word => " [alias: " ++ word ++ "]")

/-- The tool itself. -/
def toolSpec : CommandSpec :=
  { usage := "[OPTIONS] <COMMAND>"
    about := "SwiftUI lint - detects modifier calls missing their leading dot"
    argument := none
    options := [verboseOption, debugOption, helpOption, versionOption]
    commands :=
      [CommandName.lint, .init, .rules, .help].map fun name => (name, name.listing) }

/-- The command that lints. -/
def lintSpec : CommandSpec :=
  { usage := "lint [OPTIONS] <PATH>"
    about := CommandName.lint.about
    argument := some ⟨"<PATH>", "Path to check (file or directory)"⟩
    options :=
      [valued .config 'c' "config" ⟨"CONFIG", true, none⟩
        "Path to config YAML file (default: auto-discover)",
       verboseOption,
       debugOption,
       valued .format 'f' "format" ⟨"FORMAT", false, some "pretty"⟩
        "Output format: pretty, json, or sarif",
       { valued .additionalModifier 'm' "additional-modifier" ⟨"NAME", false, none⟩
          "Extra modifier name to check (repeatable)" with repeatable := true },
       valued .severity 's' "severity" ⟨"SEVERITY", false, none⟩
        "Override the rule severity: warning or error",
       flag .strict none "strict" "Fail on warnings as well as errors",
       flag .showSuppressed none "show-suppressed" "Show suppressed violations in output",
       helpOption]
    commands := [] }

/-- The command that writes a configuration. -/
def initSpec : CommandSpec :=
  { usage := "init [OPTIONS]"
    about := CommandName.init.about
    argument := none
    options :=
      [valued .output 'o' "output" ⟨"OUTPUT", true, some ".dotcheck.yml"⟩ "Output file path",
       verboseOption,
       debugOption,
       helpOption]
    commands := [] }

/-- The command that lists the rules. -/
def rulesSpec : CommandSpec :=
  { usage := "rules [OPTIONS]"
    about := CommandName.rules.about
    argument := none
    options := [verboseOption, debugOption, helpOption]
    commands := [] }

/-- The command that prints help. -/
def helpSpec : CommandSpec :=
  { usage := "help [COMMAND]..."
    about := CommandName.help.about
    argument := some ⟨"[COMMAND]...", "Print help for the subcommand(s)"⟩
    options := []
    commands := [] }

/-- A command by its name. -/
def CommandName.spec : CommandName → CommandSpec
  | lint => lintSpec
  | init => initSpec
  | rules => rulesSpec
  | help => helpSpec

end LeadingDot.CommandLine
