import LeadingDot.Proofs.Record.Recovery
import LeadingDot.Report.Sarif
import LeadingDot.Report.Summary

/-!
# Recovery of reports

A JSON report and a SARIF log are recovered from their JSON values. Their writers leave out
what is empty or missing, and their readers put it back. The last theorem puts together
what holds of every record that is written.
-/

namespace LeadingDot

open Json (Fields Recovers Shape)

/-! ## Members that may be left out -/

/-- A member that may be left out stands under its own key alone. -/
@[simp] theorem Report.lookup?_omitting (absent : Bool) (key : String) (value : Json)
    (key' : String) :
    Json.lookup? (omitting absent key value) key' =
      if absent then none else if key = key' then some value else none := by
  cases absent with
  | true => rfl
  | false => exact Json.lookup?_cons (key, value) [] key'

/-- So does the member for what may be missing. -/
@[simp] theorem Json.lookup?_elim {α : Type} (value : Option α) (key : String) (write : α → Json)
    (key' : String) :
    lookup? (value.elim [] fun x => [(key, write x)]) key' =
      if key = key' then value.map write else none := by
  cases value with
  | none => simp
  | some x => exact lookup?_cons (key, write x) [] key'

/-! ## The JSON report -/

namespace Report

/-- The fields of a violation in a report. -/
def Finding.shape : Shape :=
  .record
    [("rule", .leaf), ("severity", .leaf), ("file", .leaf), ("line", .leaf), ("column", .leaf),
     ("message", .leaf)]

theorem Finding.recovers : Recovers toJson ofJson shape := by
  refine Fields.recovers fun finding => ?_
  cases finding
  refine Fields.Reads.written ?_ Recovers.text rfl rfl
  refine Fields.Reads.written ?_ Recovers.nat rfl rfl
  refine Fields.Reads.written ?_ Recovers.nat rfl rfl
  refine Fields.Reads.written ?_ Recovers.text rfl rfl
  refine Fields.Reads.written ?_ Recovers.text rfl rfl
  refine Fields.Reads.written ?_ Recovers.text rfl rfl
  exact Fields.Reads.done Finding.mk

/-- The fields of a suppression in a report. -/
def Dismissal.shape : Shape :=
  .record
    [("rule", .leaf), ("reason", .leaf), ("file", .leaf), ("line", .leaf), ("type", .leaf)]

theorem Dismissal.recovers : Recovers toJson ofJson shape := by
  refine Fields.recovers fun dismissal => ?_
  cases dismissal
  refine Fields.Reads.written ?_ Recovers.text rfl (by simp)
  refine Fields.Reads.written ?_ Recovers.nat rfl (by simp)
  refine Fields.Reads.written ?_ Recovers.text rfl (by simp)
  refine Fields.Reads.unlessDefault ?_ Recovers.text String.isEmpty_iff.mp rfl (by simp)
  refine Fields.Reads.written ?_ Recovers.text rfl rfl
  exact Fields.Reads.done Dismissal.mk

/-- The fields of a suppressed violation in a report. -/
def DismissedFinding.shape : Shape :=
  .record [("violation", Finding.shape), ("suppression", Dismissal.shape)]

theorem DismissedFinding.recovers : Recovers toJson ofJson shape := by
  refine Fields.recovers fun dismissed => ?_
  cases dismissed
  refine Fields.Reads.written ?_ Dismissal.recovers rfl rfl
  refine Fields.Reads.written ?_ Finding.recovers rfl rfl
  exact Fields.Reads.done DismissedFinding.mk

/-- The fields of a report. -/
def Summary.shape : Shape :=
  .record
    [("version", .leaf), ("path", .leaf), ("config", .leaf), ("files_scanned", .leaf),
     ("violations", .list Finding.shape), ("suppressed", .list DismissedFinding.shape),
     ("suppressed_count", .leaf), ("skipped", .list .leaf)]

theorem Summary.recovers : Recovers toJson ofJson shape := by
  refine Fields.recovers fun summary => ?_
  cases summary
  refine Fields.Reads.unlessDefault ?_ Recovers.texts List.isEmpty_iff.mp rfl (by simp)
  refine Fields.Reads.written ?_ Recovers.nat rfl (by simp)
  refine Fields.Reads.unlessDefault ?_ (Recovers.list DismissedFinding.recovers)
    List.isEmpty_iff.mp rfl (by simp)
  refine Fields.Reads.written ?_ (Recovers.list Finding.recovers) rfl (by simp)
  refine Fields.Reads.written ?_ Recovers.nat rfl (by simp)
  refine Fields.Reads.unlessNone ?_ Recovers.text nofun rfl (by simp)
  refine Fields.Reads.written ?_ Recovers.text rfl rfl
  refine Fields.Reads.written ?_ Recovers.text rfl rfl
  exact Fields.Reads.done Summary.mk

end Report

/-! ## The SARIF log -/

namespace Sarif

/-- The fields of a message. -/
def Message.shape : Shape := .record [("text", .leaf)]

theorem Message.recovers : Recovers toJson ofJson shape := by
  refine Fields.recovers fun message => ?_
  cases message
  refine Fields.Reads.written ?_ Recovers.text rfl rfl
  exact Fields.Reads.done Message.mk

/-- The fields of a region. -/
def Region.shape : Shape := .record [("startLine", .leaf), ("startColumn", .leaf)]

theorem Region.recovers : Recovers toJson ofJson shape := by
  refine Fields.recovers fun region => ?_
  cases region
  refine Fields.Reads.written ?_ Recovers.nat rfl rfl
  refine Fields.Reads.written ?_ Recovers.nat rfl rfl
  exact Fields.Reads.done Region.mk

/-- The fields of the place of a file. -/
def ArtifactLocation.shape : Shape := .record [("uri", .leaf)]

theorem ArtifactLocation.recovers : Recovers toJson ofJson shape := by
  refine Fields.recovers fun location => ?_
  cases location
  refine Fields.Reads.written ?_ Recovers.text rfl rfl
  exact Fields.Reads.done ArtifactLocation.mk

/-- The fields of a place in a file. -/
def PhysicalLocation.shape : Shape :=
  .record [("artifactLocation", ArtifactLocation.shape), ("region", Region.shape)]

theorem PhysicalLocation.recovers : Recovers toJson ofJson shape := by
  refine Fields.recovers fun location => ?_
  cases location
  refine Fields.Reads.written ?_ Region.recovers rfl rfl
  refine Fields.Reads.written ?_ ArtifactLocation.recovers rfl rfl
  exact Fields.Reads.done PhysicalLocation.mk

/-- The fields of a location. -/
def Location.shape : Shape := .record [("physicalLocation", PhysicalLocation.shape)]

theorem Location.recovers : Recovers toJson ofJson shape := by
  refine Fields.recovers fun location => ?_
  cases location
  refine Fields.Reads.written ?_ PhysicalLocation.recovers rfl rfl
  exact Fields.Reads.done Location.mk

/-- The fields of a violation in a log. -/
def Finding.shape : Shape :=
  .record
    [("ruleId", .leaf), ("level", .leaf), ("message", Message.shape),
     ("locations", .list Location.shape)]

theorem Finding.recovers : Recovers toJson ofJson shape := by
  refine Fields.recovers fun finding => ?_
  cases finding
  refine Fields.Reads.written ?_ (Recovers.list Location.recovers) rfl rfl
  refine Fields.Reads.written ?_ Message.recovers rfl rfl
  refine Fields.Reads.written ?_ Recovers.text rfl rfl
  refine Fields.Reads.written ?_ Recovers.text rfl rfl
  exact Fields.Reads.done Finding.mk

/-- The fields of the way a rule is reported. -/
def ReportingConfiguration.shape : Shape := .record [("level", .leaf)]

theorem ReportingConfiguration.recovers : Recovers toJson ofJson shape := by
  refine Fields.recovers fun configuration => ?_
  cases configuration
  refine Fields.Reads.written ?_ Recovers.text rfl rfl
  exact Fields.Reads.done ReportingConfiguration.mk

/-- The fields of a rule in a log. -/
def ReportingDescriptor.shape : Shape :=
  .record
    [("id", .leaf), ("name", .leaf), ("shortDescription", Message.shape),
     ("fullDescription", Message.shape), ("helpUri", .leaf),
     ("defaultConfiguration", ReportingConfiguration.shape)]

theorem ReportingDescriptor.recovers : Recovers toJson ofJson shape := by
  refine Fields.recovers fun rule => ?_
  cases rule
  refine Fields.Reads.written ?_ ReportingConfiguration.recovers rfl (by simp)
  refine Fields.Reads.unlessNone ?_ Recovers.text nofun rfl (by simp)
  refine Fields.Reads.unlessNone ?_ Message.recovers nofun rfl (by simp)
  refine Fields.Reads.written ?_ Message.recovers rfl rfl
  refine Fields.Reads.written ?_ Recovers.text rfl rfl
  refine Fields.Reads.written ?_ Recovers.text rfl rfl
  exact Fields.Reads.done ReportingDescriptor.mk

/-- The fields of a component of the tool. -/
def ToolComponent.shape : Shape :=
  .record
    [("name", .leaf), ("version", .leaf), ("informationUri", .leaf),
     ("rules", .list ReportingDescriptor.shape)]

theorem ToolComponent.recovers : Recovers toJson ofJson shape := by
  refine Fields.recovers fun component => ?_
  cases component
  refine Fields.Reads.written ?_ (Recovers.list ReportingDescriptor.recovers) rfl rfl
  refine Fields.Reads.written ?_ Recovers.text rfl rfl
  refine Fields.Reads.written ?_ Recovers.text rfl rfl
  refine Fields.Reads.written ?_ Recovers.text rfl rfl
  exact Fields.Reads.done ToolComponent.mk

/-- The fields of the tool. -/
def RunTool.shape : Shape := .record [("driver", ToolComponent.shape)]

theorem RunTool.recovers : Recovers toJson ofJson shape := by
  refine Fields.recovers fun tool => ?_
  cases tool
  refine Fields.Reads.written ?_ ToolComponent.recovers rfl rfl
  exact Fields.Reads.done RunTool.mk

/-- The fields of a run. -/
def Run.shape : Shape := .record [("tool", RunTool.shape), ("results", .list Finding.shape)]

theorem Run.recovers : Recovers toJson ofJson shape := by
  refine Fields.recovers fun run => ?_
  cases run
  refine Fields.Reads.written ?_ (Recovers.list Finding.recovers) rfl rfl
  refine Fields.Reads.written ?_ RunTool.recovers rfl rfl
  exact Fields.Reads.done Run.mk

/-- The fields of a log. -/
def Log.shape : Shape :=
  .record [("version", .leaf), ("$schema", .leaf), ("runs", .list Run.shape)]

theorem Log.recovers : Recovers toJson ofJson shape := by
  refine Fields.recovers fun log => ?_
  cases log
  refine Fields.Reads.written ?_ (Recovers.list Run.recovers) rfl rfl
  refine Fields.Reads.written ?_ Recovers.text rfl rfl
  refine Fields.Reads.written ?_ Recovers.text rfl rfl
  exact Fields.Reads.done Log.mk

end Sarif

/-! ## All records -/

/-- Every record is recovered from its JSON value, whatever members with foreign keys are
added to the objects in it. -/
structure RecordsRecovered : Prop where
  severity : Recovers Severity.toJson Severity.ofJson .leaf
  rule : Recovers Rule.toJson Rule.ofJson .leaf
  violation : Recovers Violation.toJson Violation.ofJson Violation.shape
  suppression : Recovers Suppression.toJson Suppression.ofJson Suppression.shape
  suppressed : Recovers Suppressed.toJson Suppressed.ofJson Suppressed.shape
  result : Recovers Result.toJson Result.ofJson Result.shape
  config : Recovers Config.toJson Config.ofJson Config.shape
  summary : Recovers Report.Summary.toJson Report.Summary.ofJson Report.Summary.shape
  log : Recovers Sarif.Log.toJson Sarif.Log.ofJson Sarif.Log.shape

/-- Decoding undoes encoding for every record of findings, settings and reports. -/
theorem recordsRecovered : RecordsRecovered where
  severity := Severity.recovers
  rule := Rule.recovers
  violation := Violation.recovers
  suppression := Suppression.recovers
  suppressed := Suppressed.recovers
  result := Result.recovers
  config := Config.recovers
  summary := Report.Summary.recovers
  log := Sarif.Log.recovers

end LeadingDot
