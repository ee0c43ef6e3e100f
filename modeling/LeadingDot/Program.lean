import LeadingDot.Command.Init
import LeadingDot.Command.Lint
import LeadingDot.Command.Rules
import LeadingDot.CommandLine.Invocation

/-!
# The program

From the words of a command line to what the program writes and how it ends.
-/

namespace LeadingDot

/-- Carries out a command. -/
def Command.run (disk : Disk) (base : Path) : Command → Outcome
  | lint arguments => LeadingDot.lint disk base arguments
  | init output => LeadingDot.init disk base output
  | rules => listRules disk

/-- What the program writes, how it ends, and the disk as it leaves it. -/
structure Session where
  exit : ExitCode
  output : Styled
  errors : String
  disk : Disk

/-- What comes of a command line that is read without a command to carry out. -/
def Session.ofUsage (disk : Disk) (usage : CommandLine.Usage) : Session :=
  { exit := usage.exit
    output := if usage.isAnswer then .plain usage.message else []
    errors := if usage.isAnswer then "" else usage.message
    disk }

/-- Runs the program on the words of a command line. -/
def Session.run (disk : Disk) (base : Path) (words : List String) : Session :=
  match Invocation.ofWords words with
  | .error usage => .ofUsage disk usage
  | .ok invocation =>
    let outcome := invocation.command.run disk base
    { exit := outcome.exit
      output := outcome.output
      errors := outcome.noticeText (some invocation.logLevel)
      disk := outcome.disk }

end LeadingDot
