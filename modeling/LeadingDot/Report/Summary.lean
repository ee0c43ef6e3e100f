import LeadingDot.Json.Pretty
import LeadingDot.Record.Finding
import LeadingDot.Tool

/-!
# JSON report

The result of a run as one JSON object, for programs to read. The path and the
configuration are those the run was asked for. Lists that may be empty and a
configuration that there was none of are left out.
-/

namespace LeadingDot.Report

open Json (Decoder)

/-- A violation in the report. -/
structure Finding where
  rule : String
  severity : String
  file : String
  line : Nat
  column : Nat
  message : String
  deriving DecidableEq, Repr

/-- A suppression in the report. -/
structure Dismissal where
  rule : String
  reason : String
  file : String
  line : Nat
  coverage : String
  deriving DecidableEq, Repr

/-- A suppressed violation in the report. -/
structure DismissedFinding where
  violation : Finding
  suppression : Dismissal
  deriving DecidableEq, Repr

/-- The JSON report of a run. -/
structure Summary where
  version : String
  path : String
  config : Option String
  filesScanned : Nat
  violations : List Finding
  suppressed : List DismissedFinding
  suppressedCount : Nat
  skipped : List String
  deriving DecidableEq, Repr

/-- A member, or none when it is `absent`. -/
def omitting (absent : Bool) (key : String) (value : Json) : List (String × Json) :=
  if absent then [] else [(key, value)]

namespace Finding

def ofViolation (violation : Violation) : Finding :=
  { rule := violation.rule.identifier
    severity := violation.severity.name
    file := violation.file
    line := violation.line
    column := violation.column
    message := violation.message }

def toJson (finding : Finding) : Json :=
  .object
    [("rule", .text finding.rule),
     ("severity", .text finding.severity),
     ("file", .text finding.file),
     ("line", .nat finding.line),
     ("column", .nat finding.column),
     ("message", .text finding.message)]

def ofJson : Decoder Finding :=
  (Json.Fields.done Finding.mk
    |>.required "rule" Decoder.text
    |>.required "severity" Decoder.text
    |>.required "file" Decoder.text
    |>.required "line" Decoder.nat
    |>.required "column" Decoder.nat
    |>.required "message" Decoder.text).decoder "JsonViolation"

end Finding

namespace Dismissal

def ofSuppression (suppression : Suppression) : Dismissal :=
  { rule := suppression.rule
    reason := suppression.reason
    file := suppression.file
    line := suppression.line
    coverage := suppression.coverage.name }

/-- An empty reason is left out. -/
def toJson (dismissal : Dismissal) : Json :=
  .object
    ([("rule", .text dismissal.rule)] ++
     omitting dismissal.reason.isEmpty "reason" (.text dismissal.reason) ++
     [("file", .text dismissal.file),
      ("line", .nat dismissal.line),
      ("type", .text dismissal.coverage)])

def ofJson : Decoder Dismissal :=
  (Json.Fields.done Dismissal.mk
    |>.required "rule" Decoder.text
    |>.defaulted "reason" Decoder.text ""
    |>.required "file" Decoder.text
    |>.required "line" Decoder.nat
    |>.required "type" Decoder.text).decoder "JsonSuppression"

end Dismissal

namespace DismissedFinding

def ofSuppressed (suppressed : Suppressed) : DismissedFinding :=
  { violation := .ofViolation suppressed.violation
    suppression := .ofSuppression suppressed.suppression }

def toJson (dismissed : DismissedFinding) : Json :=
  .object
    [("violation", dismissed.violation.toJson),
     ("suppression", dismissed.suppression.toJson)]

def ofJson : Decoder DismissedFinding :=
  (Json.Fields.done DismissedFinding.mk
    |>.required "violation" Finding.ofJson
    |>.required "suppression" Dismissal.ofJson).decoder "JsonSuppressedViolation"

end DismissedFinding

namespace Summary

/-- The report of a result. -/
def ofResult (path : String) (config : Option String) (result : Result) : Summary :=
  { version := Tool.version
    path
    config
    filesScanned := result.scanned
    violations := result.violations.map .ofViolation
    suppressed := result.suppressed.map .ofSuppressed
    suppressedCount := result.suppressed.length
    skipped := result.skipped }

def toJson (summary : Summary) : Json :=
  .object
    ([("version", .text summary.version),
      ("path", .text summary.path)] ++
     (summary.config.elim [] fun config => [("config", .text config)]) ++
     [("files_scanned", .nat summary.filesScanned),
      ("violations", .array (summary.violations.map Finding.toJson))] ++
     omitting summary.suppressed.isEmpty "suppressed"
       (.array (summary.suppressed.map DismissedFinding.toJson)) ++
     [("suppressed_count", .nat summary.suppressedCount)] ++
     omitting summary.skipped.isEmpty "skipped" (.texts summary.skipped))

def ofJson : Decoder Summary :=
  (Json.Fields.done Summary.mk
    |>.required "version" Decoder.text
    |>.required "path" Decoder.text
    |>.defaulted "config" (Decoder.option Decoder.text) none
    |>.required "files_scanned" Decoder.nat
    |>.required "violations" (Decoder.list Finding.ofJson)
    |>.defaulted "suppressed" (Decoder.list DismissedFinding.ofJson) []
    |>.required "suppressed_count" Decoder.nat
    |>.defaulted "skipped" (Decoder.list Decoder.text) []).decoder "JsonReport"

end Summary

end LeadingDot.Report
