import LeadingDot.Suppression

/-!
# Results

What a run has found: the violations that count, those that were suppressed, the number
of files scanned and the files that could not be. Results of several files are merged by
putting them one after the other; sorting then orders them by file and place.
-/

namespace LeadingDot

/-- What a run has found. -/
structure Result where
  violations : List Violation := []
  suppressed : List Suppressed := []
  /-- Number of files scanned. -/
  scanned : Nat := 0
  /-- Files that could not be read or parsed. -/
  skipped : List String := []
  deriving DecidableEq, Repr

/-- Whether a violation may stand before another: by file, then by offset. -/
def Violation.precedes (a b : Violation) : Bool :=
  a.file < b.file || (a.file == b.file && a.offset ≤ b.offset)

namespace Result

/-- The result of a run over no files. -/
def empty : Result := {}

/-- One result after another. -/
def merge (a b : Result) : Result :=
  { violations := a.violations ++ b.violations
    suppressed := a.suppressed ++ b.suppressed
    scanned := a.scanned + b.scanned
    skipped := a.skipped ++ b.skipped }

/-- Orders the violations by file and offset and the skipped files by name. Entries that
agree in these keep their order. -/
def sort (result : Result) : Result :=
  { result with
    violations := result.violations.mergeSort Violation.precedes
    suppressed := result.suppressed.mergeSort fun a b => a.violation.precedes b.violation
    skipped := result.skipped.mergeSort fun a b => a ≤ b }

/-- Keeps the violations that no suppression covers and adds the others to the
suppressed ones. -/
def filter (result : Result) (suppressions : List Suppression) : Result :=
  { result with
    violations := Suppression.active suppressions result.violations
    suppressed := result.suppressed ++ Suppression.suppressed suppressions result.violations }

/-- Number of violations of a severity. -/
def count (result : Result) (severity : Severity) : Nat :=
  (result.violations.filter (·.severity == severity)).length

/-- Whether there is a violation of severity error. -/
def hasErrors (result : Result) : Bool :=
  result.violations.any (·.severity == .error)

end Result

/-- How a command ends. -/
inductive ExitCode where
  /-- All went well, and no violation fails the run. -/
  | success
  /-- A violation fails the run. -/
  | failed
  /-- The command could not be carried out. -/
  | error
  deriving DecidableEq, Repr

/-- The number of an exit code. -/
def ExitCode.toNat : ExitCode → Nat
  | success => 0
  | failed => 1
  | error => 2

/-- How a run with a result ends: errors fail it, and when `strict` also warnings. -/
def Result.exitCode (result : Result) (strict : Bool) : ExitCode :=
  if (if strict then !result.violations.isEmpty else result.hasErrors) then .failed else .success

end LeadingDot
