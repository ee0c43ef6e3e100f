import LeadingDot.Record.Settings
import LeadingDot.Text.Blank
import LeadingDot.Yaml.Decode

/-!
# Settings files

A configuration is written as a YAML document, a mapping with a key for each setting. An
empty file sets nothing.
-/

namespace LeadingDot

open Yaml (Decoder)

/-- Reads the settings of the rule. -/
def RuleConfig.ofYaml : Decoder RuleConfig :=
  Decoder.record "MissingDotConfig"
    [("severity", Decoder.field (Decoder.choice Severity.variants) fun severity config =>
        { config with severity }),
     ("additional_modifiers", Decoder.field (Decoder.list Decoder.text) fun names config =>
        { config with additionalModifiers := names })] {}

/-- Reads the settings of a project. -/
def Config.ofYaml : Decoder Config :=
  Decoder.record "Config"
    [("excluded", Decoder.field (Decoder.list Decoder.text) fun excluded config =>
        { config with excluded }),
     ("include_test_files", Decoder.field (Decoder.option Decoder.bool) fun included config =>
        { config with includeTestFiles := included }),
     ("missing_dot_swiftui_modifier", Decoder.field RuleConfig.ofYaml fun rule config =>
        { config with rule })] {}

/-- Why a text is no configuration. -/
inductive SettingsError where
  /-- It is no YAML document. -/
  | yaml (fault : Yaml.Fault)
  /-- The document is no configuration. -/
  | value (error : Yaml.DecodeError)

/-- What is said of an error. -/
def SettingsError.message : SettingsError → String
  | yaml fault => fault.message
  | value error => error.message

/-- Reads a configuration. -/
def Config.ofText (text : String) : Except SettingsError Config :=
  if Text.allBlank text.toList then .ok .default
  else do
    let document ← (Yaml.Document.ofText text.toList).mapError .yaml
    match document.root? with
    | none => return .default
    | some root => (Config.ofYaml document [] root).mapError .value

end LeadingDot
