import LeadingDot.Files.Path
import LeadingDot.Json.Pretty
import LeadingDot.Record.Finding
import LeadingDot.Tool

/-!
# SARIF report

The active violations of a run as a log in the Static Analysis Results Interchange
Format. The rules of the run are those that occur in its results, once each. Files are
named relative to a base path; lines and columns start at one.
-/

namespace LeadingDot.Sarif

open Json (Decoder)

/-- A message, of which only the text is used. -/
structure Message where
  text : String
  deriving DecidableEq, Repr

/-- The start of a region of a file. -/
structure Region where
  startLine : Nat
  startColumn : Nat
  deriving DecidableEq, Repr

/-- The place of a file. -/
structure ArtifactLocation where
  uri : String
  deriving DecidableEq, Repr

/-- A place in a file. -/
structure PhysicalLocation where
  artifactLocation : ArtifactLocation
  region : Region
  deriving DecidableEq, Repr

/-- Where a result was found. -/
structure Location where
  physicalLocation : PhysicalLocation
  deriving DecidableEq, Repr

/-- A violation. -/
structure Finding where
  ruleId : String
  level : String
  message : Message
  locations : List Location
  deriving DecidableEq, Repr

/-- How a rule is reported by default. -/
structure ReportingConfiguration where
  level : String
  deriving DecidableEq, Repr

/-- A rule. -/
structure ReportingDescriptor where
  id : String
  name : String
  shortDescription : Message
  fullDescription : Option Message
  helpUri : Option String
  defaultConfiguration : ReportingConfiguration
  deriving DecidableEq, Repr

/-- The component of the tool that found the results. -/
structure ToolComponent where
  name : String
  version : String
  informationUri : String
  rules : List ReportingDescriptor
  deriving DecidableEq, Repr

/-- The tool. -/
structure RunTool where
  driver : ToolComponent
  deriving DecidableEq, Repr

/-- One run of the tool. -/
structure Run where
  tool : RunTool
  results : List Finding
  deriving DecidableEq, Repr

/-- A log of runs. -/
structure Log where
  version : String
  schema : String
  runs : List Run
  deriving DecidableEq, Repr

namespace Message

def toJson (message : Message) : Json :=
  .object [("text", .text message.text)]

def ofJson : Decoder Message :=
  (Json.Fields.done Message.mk |>.required "text" Decoder.text).decoder "SarifMessage"

end Message

namespace Region

def toJson (region : Region) : Json :=
  .object [("startLine", .nat region.startLine), ("startColumn", .nat region.startColumn)]

def ofJson : Decoder Region :=
  (Json.Fields.done Region.mk
    |>.required "startLine" Decoder.nat
    |>.required "startColumn" Decoder.nat).decoder "SarifRegion"

end Region

namespace ArtifactLocation

def toJson (location : ArtifactLocation) : Json :=
  .object [("uri", .text location.uri)]

def ofJson : Decoder ArtifactLocation :=
  (Json.Fields.done ArtifactLocation.mk |>.required "uri" Decoder.text).decoder "SarifArtifact"

end ArtifactLocation

namespace PhysicalLocation

def toJson (location : PhysicalLocation) : Json :=
  .object
    [("artifactLocation", location.artifactLocation.toJson),
     ("region", location.region.toJson)]

def ofJson : Decoder PhysicalLocation :=
  (Json.Fields.done PhysicalLocation.mk
    |>.required "artifactLocation" ArtifactLocation.ofJson
    |>.required "region" Region.ofJson).decoder "SarifPhysicalLocation"

end PhysicalLocation

namespace Location

def toJson (location : Location) : Json :=
  .object [("physicalLocation", location.physicalLocation.toJson)]

def ofJson : Decoder Location :=
  (Json.Fields.done Location.mk
    |>.required "physicalLocation" PhysicalLocation.ofJson).decoder "SarifLocation"

end Location

namespace Finding

def toJson (finding : Finding) : Json :=
  .object
    [("ruleId", .text finding.ruleId),
     ("level", .text finding.level),
     ("message", finding.message.toJson),
     ("locations", .array (finding.locations.map Location.toJson))]

def ofJson : Decoder Finding :=
  (Json.Fields.done Finding.mk
    |>.required "ruleId" Decoder.text
    |>.required "level" Decoder.text
    |>.required "message" Message.ofJson
    |>.required "locations" (Decoder.list Location.ofJson)).decoder "SarifResult"

end Finding

namespace ReportingConfiguration

def toJson (configuration : ReportingConfiguration) : Json :=
  .object [("level", .text configuration.level)]

def ofJson : Decoder ReportingConfiguration :=
  (Json.Fields.done ReportingConfiguration.mk
    |>.required "level" Decoder.text).decoder "SarifRuleConfig"

end ReportingConfiguration

namespace ReportingDescriptor

/-- A description and a help address that there are none of are left out. -/
def toJson (rule : ReportingDescriptor) : Json :=
  .object
    ([("id", .text rule.id),
      ("name", .text rule.name),
      ("shortDescription", rule.shortDescription.toJson)] ++
     (rule.fullDescription.elim [] fun message => [("fullDescription", message.toJson)]) ++
     (rule.helpUri.elim [] fun uri => [("helpUri", .text uri)]) ++
     [("defaultConfiguration", rule.defaultConfiguration.toJson)])

def ofJson : Decoder ReportingDescriptor :=
  (Json.Fields.done ReportingDescriptor.mk
    |>.required "id" Decoder.text
    |>.required "name" Decoder.text
    |>.required "shortDescription" Message.ofJson
    |>.optional "fullDescription" Message.ofJson
    |>.optional "helpUri" Decoder.text
    |>.required "defaultConfiguration" ReportingConfiguration.ofJson).decoder "SarifRule"

end ReportingDescriptor

namespace ToolComponent

def toJson (component : ToolComponent) : Json :=
  .object
    [("name", .text component.name),
     ("version", .text component.version),
     ("informationUri", .text component.informationUri),
     ("rules", .array (component.rules.map ReportingDescriptor.toJson))]

def ofJson : Decoder ToolComponent :=
  (Json.Fields.done ToolComponent.mk
    |>.required "name" Decoder.text
    |>.required "version" Decoder.text
    |>.required "informationUri" Decoder.text
    |>.required "rules" (Decoder.list ReportingDescriptor.ofJson)).decoder "SarifDriver"

end ToolComponent

namespace RunTool

def toJson (tool : RunTool) : Json :=
  .object [("driver", tool.driver.toJson)]

def ofJson : Decoder RunTool :=
  (Json.Fields.done RunTool.mk |>.required "driver" ToolComponent.ofJson).decoder "SarifTool"

end RunTool

namespace Run

def toJson (run : Run) : Json :=
  .object
    [("tool", run.tool.toJson),
     ("results", .array (run.results.map Finding.toJson))]

def ofJson : Decoder Run :=
  (Json.Fields.done Run.mk
    |>.required "tool" RunTool.ofJson
    |>.required "results" (Decoder.list Finding.ofJson)).decoder "SarifRun"

end Run

namespace Log

def toJson (log : Log) : Json :=
  .object
    [("version", .text log.version),
     ("$schema", .text log.schema),
     ("runs", .array (log.runs.map Run.toJson))]

def ofJson : Decoder Log :=
  (Json.Fields.done Log.mk
    |>.required "version" Decoder.text
    |>.required "$schema" Decoder.text
    |>.required "runs" (Decoder.list Run.ofJson)).decoder "SarifReport"

end Log

/-- The version of the format. -/
def formatVersion : String := "2.1.0"

/-- Where the schema of the format is. -/
def schemaUri : String :=
  "https://raw.githubusercontent.com/oasis-tcs/sarif-spec/master/Schemata/sarif-schema-2.1.0.json"

/-- What a log says of a rule. -/
def ReportingDescriptor.ofRule (rule : Rule) : ReportingDescriptor :=
  match rule with
  | .missingDot =>
    { id := rule.identifier
      name := "MissingDotSwiftUIModifier"
      shortDescription := ⟨rule.description.description⟩
      fullDescription := some ⟨"Identifies calls to known SwiftUI modifiers inside `some View` " ++
        "bodies that are written without the leading dot, so they are parsed as separate " ++
        "statements instead of continuing the modifier chain."⟩
      helpUri := some (Tool.informationUri ++ "#" ++ rule.identifier)
      defaultConfiguration := ⟨"error"⟩ }

/-- The path of a file as a log gives it: relative to `base` if it lies below it, with
slashes alone, and its name alone if it is the base itself. -/
def relativePath (file : String) (base : Path) : String :=
  let path := Path.ofString file
  if base.toString.isEmpty then file
  else if path.same base then
    (path.fileName?.map fun name => Path.toString ⟨name⟩).getD file
  else match path.below? base with
    | some rest => String.ofList (rest.toString.toList.map fun c => if c = '\\' then '/' else c)
    | none => file

/-- A violation as a log gives it. -/
def Finding.ofViolation (base : Path) (violation : Violation) : Finding :=
  { ruleId := violation.rule.identifier
    level := violation.severity.name
    message := ⟨violation.message⟩
    locations :=
      [⟨{ artifactLocation := ⟨relativePath violation.file base⟩
          region := ⟨max violation.line 1, max violation.column 1⟩ }⟩] }

/-- The rules that some violation breaks, once each. -/
def rulesOf (violations : List Violation) : List Rule :=
  Rule.all.filter fun rule => violations.any (·.rule == rule)

/-- The log of a result. -/
def Log.ofResult (base : Path) (result : Result) : Log :=
  { version := formatVersion
    schema := schemaUri
    runs :=
      [{ tool :=
          { driver :=
              { name := Tool.name
                version := Tool.version
                informationUri := Tool.informationUri
                rules := (rulesOf result.violations).map .ofRule } }
         results := result.violations.map (.ofViolation base) }] }

end LeadingDot.Sarif
