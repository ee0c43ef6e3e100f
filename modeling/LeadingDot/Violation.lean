import LeadingDot.Rule
import LeadingDot.Severity

/-!
# Violations

A place in a file where a rule is broken. The line and the column count from one,
the column in bytes; the offset counts bytes from the start of the file.
-/

namespace LeadingDot

/-- A place where a rule is broken. -/
structure Violation where
  rule : Rule
  message : String
  file : String
  line : Nat
  column : Nat
  offset : Nat
  severity : Severity
  deriving DecidableEq, Repr

end LeadingDot
