/-!
# Log lines

What the tool tells about its work while it is at it. Each line has a level; a line is
shown if its level is at least as grave as the one asked for.
-/

namespace LeadingDot

/-- How grave a log line is. -/
inductive LogLevel where
  | debug
  | info
  | warn
  deriving DecidableEq, Repr

namespace LogLevel

/-- The name of a level. -/
def name : LogLevel → String
  | debug => "DEBUG"
  | info => "INFO"
  | warn => "WARN"

/-- The place of a level among the others, from the least grave on. -/
def rank : LogLevel → Nat
  | debug => 0
  | info => 1
  | warn => 2

end LogLevel

/-- A log line: a message, and what it is about, as keys with values. -/
structure LogLine where
  level : LogLevel
  message : String
  fields : List (String × String)
  deriving DecidableEq, Repr

namespace LogLine

/-- Whether a line is shown when lines of a level are asked for. -/
def shownAt (line : LogLine) (level : LogLevel) : Bool :=
  level.rank ≤ line.level.rank

/-- The text of a line. -/
def text (line : LogLine) : String :=
  line.level.name ++ " " ++ line.message ++
    String.join (line.fields.map fun field => " " ++ field.1 ++ "=" ++ field.2)

end LogLine

end LeadingDot
