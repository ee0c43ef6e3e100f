import LeadingDot.Files.Disk
import LeadingDot.Log
import LeadingDot.Report.Styled
import LeadingDot.Result

/-!
# Outcomes

What comes of a command: how it ends, what it writes as its output, what it tells beside
that, and the disk as it leaves it.
-/

namespace LeadingDot

/-- What a command tells beside its output. -/
inductive Notice where
  | log (line : LogLine)
  | plain (text : String)
  deriving DecidableEq, Repr

/-- The text of a notice when lines of the log from a level on are shown; no level shows
none. -/
def Notice.text (level : Option LogLevel) : Notice → String
  | log line => if level.any line.shownAt then line.text ++ "\n" else ""
  | plain text => text ++ "\n"

/-- What comes of a command. -/
structure Outcome where
  exit : ExitCode
  output : Styled := []
  notices : List Notice := []
  disk : Disk

namespace Outcome

/-- The text of what a command tells beside its output. -/
def noticeText (outcome : Outcome) (level : Option LogLevel) : String :=
  String.join (outcome.notices.map (Notice.text level))

/-- The outcome of a command that cannot be carried out, after some lines of the log. -/
def failure (disk : Disk) (log : List LogLine) (lines : List String) : Outcome :=
  { exit := .error, notices := log.map .log ++ lines.map .plain, disk }

end Outcome

end LeadingDot
