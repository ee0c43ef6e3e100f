import LeadingDot.CommandLine.Help
import LeadingDot.Result

/-!
# Usage

How the reading of a command line can end without a command to carry out: help or the
version was asked for, or the command line is at fault.
-/

namespace LeadingDot.CommandLine

/-- An end of the reading of a command line. -/
inductive Usage where
  /-- Help is asked for. -/
  | help (spec : CommandSpec)
  /-- The version is asked for. -/
  | version
  /-- There is nothing on the command line. -/
  | nothing
  /-- There is no command on the command line. -/
  | missingCommand
  /-- There is no command of this name. -/
  | unknownCommand (word : String)
  /-- There is no such option, or no place for such an argument. -/
  | unknownArgument (text : String)
  /-- An option is given several times. -/
  | repeated (option : OptionSpec)
  /-- An option has a value that takes none. -/
  | unneededValue (value : String) (option : OptionSpec)
  /-- An option or argument lacks its value. -/
  | missingValue (display : String)
  /-- An argument is missing. -/
  | missingArgument

namespace Usage

/-- What is said first of a fault. -/
def message : Usage → String
  | help spec => spec.help
  | version => Tool.name ++ " " ++ Tool.version ++ "\n"
  | nothing => toolSpec.help
  | missingCommand =>
    "error: '" ++ Tool.name ++ "' requires a subcommand but one was not provided\n"
  | unknownCommand word => "error: unrecognized subcommand '" ++ word ++ "'\n"
  | unknownArgument text => "error: unexpected argument '" ++ text ++ "' found\n"
  | repeated option =>
    "error: the argument '" ++ option.display ++ "' cannot be used multiple times\n"
  | unneededValue value option =>
    "error: unexpected value '" ++ value ++ "' for '" ++ option.display ++
      "' found; no more were expected\n"
  | missingValue display =>
    "error: a value is required for '" ++ display ++ "' but none was supplied\n"
  | missingArgument => "error: the following required arguments were not provided:\n"

/-- Whether the command line is in order, and what it asks for is shown. -/
def isAnswer : Usage → Bool
  | help _ => true
  | version => true
  | _ => false

/-- How the tool ends. -/
def exit (usage : Usage) : ExitCode :=
  if usage.isAnswer then .success else .error

end Usage

end LeadingDot.CommandLine
