import LeadingDot.CommandLine.Grammar

/-!
# Help

The help text of the tool and of its commands: what they do, the usage line, and tables of
what may follow. In a table the second column starts two blanks after the longest entry
of the first.
-/

namespace LeadingDot.CommandLine

/-- A text filled up with blanks. -/
def padded (width : Nat) (text : String) : String :=
  text.pushn ' ' (width - text.length)

/-- The lines of a table. -/
def table (rows : List (String × String)) : List String :=
  let width := (rows.map (·.1.length)).foldl max 0
  rows.map fun row => "  " ++ padded width row.1 ++ "  " ++ row.2

/-- A table under its title, after an empty line; nothing if it has no rows. -/
def titledTable (title : String) (rows : List (String × String)) : List String :=
  if rows.isEmpty then [] else "" :: (title ++ ":") :: table rows

/-- The row of an option. -/
def OptionSpec.row (option : OptionSpec) : String × String :=
  let short := option.short.elim "    " fun c => "-" ++ c.toString ++ ", "
  let default := (option.value.bind (·.default)).elim "" fun text => " [default: " ++ text ++ "]"
  (short ++ option.display, option.about ++ default)

/-- The help text of the tool or of a command. -/
def CommandSpec.help (spec : CommandSpec) : String :=
  let lines :=
    [spec.about, "", "Usage: " ++ Tool.name ++ " " ++ spec.usage] ++
      titledTable "Commands" (spec.commands.map fun row => (row.1.word, row.2)) ++
      titledTable "Arguments" (spec.argument.toList.map fun row => (row.display, row.about)) ++
      titledTable "Options" (spec.options.map OptionSpec.row)
  String.join (lines.map (· ++ "\n"))

end LeadingDot.CommandLine
