import LeadingDot.Command.Outcome
import LeadingDot.Files.DiskEdit
import LeadingDot.Tool

/-!
# The init command

Writes a configuration file to start from, where there is none yet.
-/

namespace LeadingDot

namespace ConfigFile

/-- The lines of the configuration file to start from. -/
def templateLines : List String :=
  ["# dotcheck configuration",
   "#",
   "# Paths (relative to the scanned directory) that should never be linted.",
   "excluded:",
   "  - \"Generated/**\"",
   "",
   "# Lint *Tests.swift, *Test.swift and files under *Tests directories.",
   "include_test_files: false",
   "",
   "missing_dot_swiftui_modifier:",
   "  # warning | error",
   "  severity: error",
   "  # Project-specific view modifiers that should also require a leading dot.",
   "  additional_modifiers: []"]

/-- The configuration file to start from. -/
def template : String := String.join (templateLines.map (· ++ "\n"))

end ConfigFile

/-- Why no configuration file is written. -/
inductive InitError where
  | taken (path : Path)
  | directory (error : DiskError)
  | write (error : DiskError)
  deriving DecidableEq, Repr

/-- What is said of an error. -/
def InitError.lines : InitError → List String
  | taken path =>
    ["Error: file already exists: " ++ path.toString,
     "Remove it or use --output to specify a different path"]
  | directory error => ["Error: failed to create directory: " ++ error.message]
  | write error => ["Error: failed to write config: " ++ error.message]

/-- The directory that has to be there before a path is written, if it may be missing. -/
def Path.neededDirectory? (path : Path) : Option Path :=
  path.parent?.filter fun parent => parent.text != [] && !parent.same (.ofString ".")

/-- The disk with the configuration file to start from. -/
def writeTemplate (disk : Disk) (base path : Path) : Except InitError Disk := do
  if disk.exists base path then throw (.taken path)
  let disk ←
    match path.neededDirectory? with
    | some directory => (disk.createDirectories base directory).mapError .directory
    | none => pure disk
  (disk.write base path ⟨⟨ConfigFile.template.toUTF8.data⟩, none⟩).mapError .write

/-- Writes a configuration file and tells what to do next. -/
def init (disk : Disk) (base output : Path) : Outcome :=
  match writeTemplate disk base output with
  | .error error => .failure disk [] error.lines
  | .ok disk =>
    let lines :=
      ["Created " ++ output.toString,
       "",
       "Next steps:",
       "  1. Add project-specific modifiers to additional_modifiers",
       "  2. Run: " ++ Tool.name ++ " lint . --config " ++ output.toString]
    { exit := .success, output := .plain (String.join (lines.map (· ++ "\n"))), disk }

end LeadingDot
