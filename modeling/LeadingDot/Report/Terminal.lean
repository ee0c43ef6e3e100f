import LeadingDot.Report.Styled
import LeadingDot.Result
import LeadingDot.Text.Quoted
import LeadingDot.Tool

/-!
# Terminal report

The result of a run for people to read: a heading, the violations, the suppressed
violations, the skipped files, and a line that sums up. A part without entries is left
out. Suppressed violations are listed only on request.
-/

namespace LeadingDot.Report

open Styled (plain styled)

/-- The end of a line. -/
def lineEnd : Styled := plain "\n"

/-- The heading: the tool, what it looked at, and its configuration. -/
def heading (path : String) (config : Option String) : Styled :=
  plain "\n  " ++ styled .title Tool.name ++ plain (" v" ++ Tool.version ++ "\n\n") ++
  plain "  " ++ styled .dim "Scanning: " ++ plain (path ++ "\n") ++
  plain "  " ++ styled .dim "Config:   " ++ plain (config.getD "(defaults)" ++ "\n\n")

/-- A severity, filled to equal width. -/
def severityTag : Severity → Styled
  | .error => styled .red "ERROR"
  | .warning => styled .yellow "WARN "

/-- The head of a part, with the number of its entries. -/
def partHead (style : Style) (name : String) (count : Nat) : Styled :=
  plain "  " ++ styled style name ++ plain (" (" ++ toString count ++ "):\n")

/-- One violation: its severity, its place and its message. -/
def violationEntry (violation : Violation) : Styled :=
  plain "    " ++ severityTag violation.severity ++ plain "    " ++
  styled .blue violation.file ++
  styled .dim (":" ++ toString violation.line ++ ":" ++ toString violation.column) ++ lineEnd ++
  plain ("            " ++ violation.message ++ "\n\n")

/-- The violations. -/
def violationsPart (violations : List Violation) : Styled :=
  if violations.isEmpty then []
  else
    partHead .bold "Violations" violations.length ++ lineEnd ++
      violations.flatMap violationEntry ++ lineEnd

/-- One suppressed violation: its place, its message, and the reason if there is one. -/
def suppressedEntry (suppressed : Suppressed) : Styled :=
  plain "    " ++ styled .blue suppressed.violation.file ++
  styled .dim
    (if suppressed.suppression.coverage = .file then ":* (file)"
      else ":" ++ toString suppressed.violation.line) ++ lineEnd ++
  plain "            " ++ styled .dim suppressed.violation.message ++ lineEnd ++
  if suppressed.suppression.reason.isEmpty then []
  else
    plain "            " ++
      styled .dim ("reason: " ++ Text.quoted suppressed.suppression.reason) ++ lineEnd

/-- The suppressed violations, or how to have them listed. -/
def suppressedPart (suppressed : List Suppressed) (listed : Bool) : Styled :=
  if suppressed.isEmpty then []
  else
    partHead .dim "Suppressed" suppressed.length ++
      (if listed then lineEnd ++ suppressed.flatMap suppressedEntry
        else plain "    " ++ styled .dim "(use --show-suppressed to see details)" ++ lineEnd) ++
      lineEnd

/-- The files that could not be scanned. -/
def skippedPart (skipped : List String) : Styled :=
  if skipped.isEmpty then []
  else
    partHead .yellow "Skipped" skipped.length ++
      (skipped.flatMap fun file => plain "    " ++ styled .dim file ++ lineEnd) ++ lineEnd

/-- The line that sums up. -/
def verdict (result : Result) (passed : Bool) : Styled :=
  plain "  " ++ (if passed then styled .green "✓ PASS" else styled .red "✗ FAIL") ++
  plain ("  " ++ toString result.scanned ++ " file(s), " ++ toString (result.count .error) ++
    " error(s), " ++ toString (result.count .warning) ++ " warning(s)") ++
  (if result.suppressed.isEmpty then []
    else plain "  " ++
      styled .dim ("(" ++ toString result.suppressed.length ++ " suppressed)")) ++
  lineEnd ++ lineEnd

/-- The terminal report of a result. -/
def terminal (path : String) (config : Option String) (result : Result)
    (passed listSuppressed : Bool) : Styled :=
  heading path config ++ violationsPart result.violations ++
    suppressedPart result.suppressed listSuppressed ++ skippedPart result.skipped ++
    verdict result passed

end LeadingDot.Report
