import LeadingDot.Text.Lowercase

/-!
# Severity

How grave a violation is. A severity is read from its name in any mixture of cases.
-/

namespace LeadingDot

/-- The gravity of a violation. -/
inductive Severity where
  | error
  | warning
  deriving DecidableEq, Repr

/-- The text is the name of no severity. -/
structure UnknownSeverity where
  text : String
  deriving DecidableEq, Repr

/-- What is said of a text that names no severity. -/
def UnknownSeverity.message (failure : UnknownSeverity) : String :=
  "unknown severity: " ++ failure.text

namespace Severity

/-- The name of a severity, in lower case. -/
def name : Severity → String
  | error => "error"
  | warning => "warning"

/-- Reads a severity by its name. The comparison is made in lower case. -/
def parse (text : String) : Except UnknownSeverity Severity :=
  let lower := Text.lowercase text
  if lower = error.name then .ok error
  else if lower = warning.name then .ok warning
  else .error ⟨text⟩

end Severity

end LeadingDot
