import LeadingDot.Exclusion
import LeadingDot.Files.Walk
import LeadingDot.Log

/-!
# Collecting sources

The files to scan in a directory: the Swift files of a walk through it, without those
that the configuration leaves out and, unless it asks for them, without tests. Whether a
file is left out and whether it is a test is decided by its path below the directory.
-/

namespace LeadingDot

namespace Path

/-- Whether a path is that of a Swift file, by its extension. -/
def isSwift (path : Path) : Bool :=
  path.extension?.bind Text.Utf8.decode? == some "swift".toList

/-- Whether a text ends in a word. -/
def endsIn (word : String) (text : List Char) : Bool :=
  word.toList.isSuffixOf text

/-- Whether a path is that of a test: a file named `*Test` or `*Tests`, or one in a
directory named `*Tests`. A file whose name is no text has no such name; the name of a
directory is taken as it is shown. -/
def isTest (path : Path) : Bool :=
  let stem := (path.stem?.bind Text.Utf8.decode?).getD []
  endsIn "Tests" stem || endsIn "Test" stem ||
    path.parent?.any fun parent => parent.components.any fun component =>
      component.name?.any fun name => endsIn "Tests" (Text.Utf8.decodeLossy name)

end Path

/-- Why no files could be collected. -/
inductive CollectError where
  | pattern (error : PatternError)
  | walk (error : WalkError)
  deriving DecidableEq, Repr

/-- What is said of an error and of what caused it. -/
def CollectError.report : CollectError → String
  | pattern error => error.message ++ ": " ++ error.cause
  | walk error => error.report

namespace Collect

/-- What becomes of a file. -/
inductive Verdict where
  /-- It is no Swift file. -/
  | other
  /-- The configuration leaves it out. -/
  | excluded
  /-- It is a test, and tests are not scanned. -/
  | test
  /-- It is scanned. -/
  | kept
  deriving DecidableEq, Repr

/-- The path of a file below the directory in which it was found. -/
def relative (root path : Path) : Path :=
  (path.below? root).getD path

/-- What becomes of a file that was found in a directory. -/
def judge (exclusion : Exclusion) (tests : Bool) (root path : Path) : Verdict :=
  let inside := relative root path
  if !path.isSwift then .other
  else if exclusion.covers inside.text then .excluded
  else if !tests && inside.isTest then .test
  else .kept

/-- What is logged of a file that was found in a directory. -/
def logLine? (root path : Path) : Verdict → Option LogLine
  | .excluded => some ⟨.debug, "excluded by config", [("path", (relative root path).toString)]⟩
  | .test => some ⟨.debug, "skipping test file", [("path", (relative root path).toString)]⟩
  | _ => none

/-- The paths that a walk finds before its first error. -/
def pathsBeforeError : List Walk.Finding → List Path
  | .ok path :: rest => path :: pathsBeforeError rest
  | _ => []

end Collect

/-- The files to scan in a directory. -/
def collect (disk : Disk) (base root : Path) (config : Config) :
    Except CollectError (List Path) := do
  let exclusion ← config.exclusion.mapError .pattern
  let found ← ((disk.walk base root).mapM id).mapError .walk
  return found.filter fun path =>
    Collect.judge exclusion config.scansTests root path == .kept

/-- What is logged while the files to scan in a directory are collected. -/
def collectLog (disk : Disk) (base root : Path) (config : Config) : List LogLine :=
  match config.exclusion with
  | .error _ => []
  | .ok exclusion =>
    (Collect.pathsBeforeError (disk.walk base root)).filterMap fun path =>
      Collect.logLine? root path (Collect.judge exclusion config.scansTests root path)

end LeadingDot
