import LeadingDot.Exclusion
import LeadingDot.Files.Disk
import LeadingDot.Log
import LeadingDot.Record.SettingsFile

/-!
# Configuration files

A configuration file is named or looked for under a few names: in a directory first, then
in the one that paths start from. Its patterns have to be glob patterns.
-/

namespace LeadingDot

/-- Why a configuration file cannot be used. -/
inductive ConfigFileError where
  | unreadable (path : Path) (error : DiskError)
  | malformed (path : Path) (error : SettingsError)
  | pattern (error : PatternError)

/-- What is said of an error and of what caused it. -/
def ConfigFileError.report : ConfigFileError → String
  | unreadable path error =>
    "cannot read " ++ path.toString ++ ": " ++ error.message ++ ": " ++ error.message
  | malformed path error =>
    "invalid YAML in " ++ path.toString ++ ": " ++ error.message ++ ": " ++ error.message
  | pattern error => error.message ++ ": " ++ error.cause

namespace ConfigFile

/-- Names of configuration files, in the order in which they are looked for. -/
def names : List String := [".dotcheck.yml", ".dotcheck.yaml", "dotcheck.yml"]

/-- The paths that a configuration file is looked for at. -/
def candidates (base directory : Path) : List Path :=
  (if base.same directory then [directory] else [directory, base]).flatMap fun directory =>
    names.map fun name => directory.join (.ofString name)

/-- The configuration file that belongs to a directory. -/
def find? (disk : Disk) (base directory : Path) : Option Path :=
  (candidates base directory).find? (disk.isFile base)

/-- Reads a configuration file. -/
def read (disk : Disk) (base path : Path) : Except ConfigFileError Config := do
  let text ← (disk.readText base path).mapError (.unreadable path)
  (Config.ofText text).mapError (.malformed path)

/-- The configuration in a file, or the one that sets nothing. -/
def load (disk : Disk) (base : Path) (path? : Option Path) : Except ConfigFileError Config := do
  let config ←
    match path? with
    | some path => read disk base path
    | none => pure .default
  let _ ← config.exclusion.mapError .pattern
  return config

/-- What is logged before a configuration file is read. -/
def loadLog (path? : Option Path) : List LogLine :=
  path?.toList.map fun path => ⟨.info, "loading config", [("path", path.toString)]⟩

/-- What is logged of a configuration: how many names of modifiers are blank, if any. -/
def nameLog (config : Config) : List LogLine :=
  match (config.rule.additionalModifiers.filter fun name => Text.allBlank name.toList).length with
  | 0 => []
  | count =>
    [⟨.warn, "ignoring empty entries in additional_modifiers", [("count", toString count)]⟩]

end ConfigFile

end LeadingDot
