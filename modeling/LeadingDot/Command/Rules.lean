import LeadingDot.Command.Outcome
import LeadingDot.CommandLine.Help
import LeadingDot.Rule

/-!
# The rules command

Lists the rules in columns: identifier, kind and name, and the description below the name.
-/

namespace LeadingDot

namespace Rule

/-- A line of the list of rules. -/
def listLine (identifier kind text : String) : String :=
  "  " ++ CommandLine.padded 32 identifier ++ " " ++ CommandLine.padded 6 kind ++ " " ++ text

/-- What the list of rules says of a rule. -/
def listing (rule : Rule) : List String :=
  let description := rule.description
  [listLine description.identifier description.kind.name description.name,
   listLine "" "" description.description]

/-- How a rule is suppressed. -/
def suppressionExample (rule : Rule) : String :=
  "  // dotcheck:ignore " ++ rule.identifier ++ " - reason"

end Rule

/-- Lists the rules. -/
def listRules (disk : Disk) : Outcome :=
  let lines :=
    ["Available rules:", ""] ++ Rule.all.flatMap Rule.listing ++ ["", "Suppress with:"] ++
      Rule.all.map Rule.suppressionExample
  { exit := .success, output := .plain (String.join (lines.map (· ++ "\n"))), disk }

end LeadingDot
