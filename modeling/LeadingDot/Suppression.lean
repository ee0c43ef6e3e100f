import LeadingDot.Violation

/-!
# Suppressions

A suppression takes violations out of the result: those of one rule, or of all rules,
on its own line, on the line after it, or in its whole file.
-/

namespace LeadingDot

/-- Which lines a suppression covers. -/
inductive Coverage where
  /-- The line of the suppression. -/
  | line
  /-- The line after the suppression. -/
  | nextLine
  /-- The whole file. -/
  | file
  deriving DecidableEq, Repr

/-- The name of a coverage in records and reports. -/
def Coverage.name : Coverage → String
  | line => "line"
  | nextLine => "nextline"
  | file => "file"

/-- A suppression found in a file. -/
structure Suppression where
  /-- The identifier of the rule it concerns, or `*` for every rule. -/
  rule : String
  reason : String
  file : String
  /-- The line it stands on, zero if it covers the file. -/
  line : Nat
  coverage : Coverage
  deriving DecidableEq, Repr

/-- A violation together with the suppression that covers it. -/
structure Suppressed where
  violation : Violation
  suppression : Suppression
  deriving DecidableEq, Repr

namespace Suppression

/-- The name that stands for every rule. -/
def everyRule : String := "*"

/-- Whether a suppression concerns a rule. -/
def concerns (suppression : Suppression) (rule : Rule) : Bool :=
  suppression.rule == everyRule || Rule.parse? suppression.rule == some rule

/-- Whether a suppression covers a line of its file. -/
def coversLine (suppression : Suppression) (line : Nat) : Bool :=
  match suppression.coverage with
  | .file => true
  | .line => line == suppression.line
  | .nextLine => line == suppression.line + 1

/-- Whether a suppression covers a violation. -/
def covers (suppression : Suppression) (violation : Violation) : Bool :=
  violation.file == suppression.file && suppression.concerns violation.rule &&
    suppression.coversLine violation.line

/-- The first of the suppressions that covers a violation. -/
def cover? (suppressions : List Suppression) (violation : Violation) : Option Suppression :=
  suppressions.find? (·.covers violation)

/-- The violations that no suppression covers. -/
def active (suppressions : List Suppression) (violations : List Violation) : List Violation :=
  violations.filter fun violation => (cover? suppressions violation).isNone

/-- The violations that some suppression covers, each with the first one that does. -/
def suppressed (suppressions : List Suppression) (violations : List Violation) :
    List Suppressed :=
  violations.filterMap fun violation =>
    (cover? suppressions violation).map (Suppressed.mk violation)

end Suppression

end LeadingDot
