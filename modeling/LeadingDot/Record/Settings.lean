import LeadingDot.Config
import LeadingDot.Record.Finding

/-!
# Records of settings

How configurations are written as JSON values and read back. Everything may be left out.
-/

namespace LeadingDot

open Json (Decoder)

namespace RuleConfig

def toJson (config : RuleConfig) : Json :=
  .object
    [("severity", config.severity.toJson),
     ("additional_modifiers", .texts config.additionalModifiers)]

def ofJson : Decoder RuleConfig :=
  (Json.Fields.done RuleConfig.mk
    |>.defaulted "severity" Severity.ofJson .error
    |>.defaulted "additional_modifiers" (Decoder.list Decoder.text) []).decoder
    "MissingDotConfig"

end RuleConfig

namespace Config

def toJson (config : Config) : Json :=
  .object
    [("excluded", .texts config.excluded),
     ("include_test_files", config.includeTestFiles.elim .null .bool),
     ("missing_dot_swiftui_modifier", config.rule.toJson)]

def ofJson : Decoder Config :=
  (Json.Fields.done Config.mk
    |>.defaulted "excluded" (Decoder.list Decoder.text) []
    |>.defaulted "include_test_files" (Decoder.option Decoder.bool) none
    |>.defaulted "missing_dot_swiftui_modifier" RuleConfig.ofJson {}).decoder "Config"

end Config

end LeadingDot
