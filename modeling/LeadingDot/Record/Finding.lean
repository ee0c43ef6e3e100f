import LeadingDot.Json.Decode
import LeadingDot.Result

/-!
# Records of findings

How violations, suppressions and results are written as JSON values and read back. Each
field stands under its key; a choice is written as the name of its alternative.
-/

namespace LeadingDot

open Json (Decoder)

namespace Severity

/-- The severities by their names. -/
def variants : List (String × Severity) :=
  [(error.name, error), (warning.name, warning)]

def toJson (severity : Severity) : Json := .text severity.name

def ofJson : Decoder Severity := Decoder.choice variants

end Severity

namespace Rule

/-- The rules by their identifiers. -/
def variants : List (String × Rule) :=
  all.map fun rule => (rule.identifier, rule)

def toJson (rule : Rule) : Json := .text rule.identifier

def ofJson : Decoder Rule := Decoder.choice variants

end Rule

namespace Coverage

/-- The coverages by their names. -/
def variants : List (String × Coverage) :=
  [(line.name, line), (nextLine.name, nextLine), (file.name, file)]

def toJson (coverage : Coverage) : Json := .text coverage.name

def ofJson : Decoder Coverage := Decoder.choice variants

end Coverage

namespace Violation

def toJson (violation : Violation) : Json :=
  .object
    [("rule", violation.rule.toJson),
     ("message", .text violation.message),
     ("file", .text violation.file),
     ("line", .nat violation.line),
     ("column", .nat violation.column),
     ("offset", .nat violation.offset),
     ("severity", violation.severity.toJson)]

def ofJson : Decoder Violation :=
  (Json.Fields.done Violation.mk
    |>.required "rule" Rule.ofJson
    |>.required "message" Decoder.text
    |>.required "file" Decoder.text
    |>.required "line" Decoder.nat
    |>.required "column" Decoder.nat
    |>.required "offset" Decoder.nat
    |>.required "severity" Severity.ofJson).decoder "Violation"

end Violation

namespace Suppression

def toJson (suppression : Suppression) : Json :=
  .object
    [("rule", .text suppression.rule),
     ("reason", .text suppression.reason),
     ("file", .text suppression.file),
     ("line", .nat suppression.line),
     ("suppression_type", suppression.coverage.toJson)]

def ofJson : Decoder Suppression :=
  (Json.Fields.done Suppression.mk
    |>.required "rule" Decoder.text
    |>.required "reason" Decoder.text
    |>.required "file" Decoder.text
    |>.required "line" Decoder.nat
    |>.required "suppression_type" Coverage.ofJson).decoder "Suppression"

end Suppression

namespace Suppressed

def toJson (suppressed : Suppressed) : Json :=
  .object
    [("violation", suppressed.violation.toJson),
     ("suppression", suppressed.suppression.toJson)]

def ofJson : Decoder Suppressed :=
  (Json.Fields.done Suppressed.mk
    |>.required "violation" Violation.ofJson
    |>.required "suppression" Suppression.ofJson).decoder "SuppressedViolation"

end Suppressed

namespace Result

def toJson (result : Result) : Json :=
  .object
    [("violations", .array (result.violations.map Violation.toJson)),
     ("suppressed", .array (result.suppressed.map Suppressed.toJson)),
     ("scanned", .nat result.scanned),
     ("skipped", .texts result.skipped)]

/-- Suppressed violations and skipped files may be left out. -/
def ofJson : Decoder Result :=
  (Json.Fields.done Result.mk
    |>.required "violations" (Decoder.list Violation.ofJson)
    |>.defaulted "suppressed" (Decoder.list Suppressed.ofJson) []
    |>.required "scanned" Decoder.nat
    |>.defaulted "skipped" (Decoder.list Decoder.text) []).decoder "DetectionResult"

end Result

end LeadingDot
