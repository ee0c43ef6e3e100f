import LeadingDot.Check
import LeadingDot.Config
import LeadingDot.Files.Disk
import LeadingDot.Log

/-!
# Runs

A run checks a list of files and merges their results. A file that cannot be read or
parsed is skipped and listed; it does not stop the run. The merged result is sorted.
-/

namespace LeadingDot

/-- Why a file is skipped. -/
inductive SkipCause where
  | unreadable (error : DiskError)
  | unparsed
  deriving DecidableEq, Repr

/-- The parsed sources behind paths. -/
abbrev Sources := Path → Except SkipCause ParsedSource

/-- The sources on a disk. -/
def Disk.sources (disk : Disk) (base : Path) : Sources := fun path =>
  match disk.read base path with
  | .error error => .error (.unreadable error)
  | .ok contents =>
    match contents.parse? with
    | none => .error .unparsed
    | some (root, hasErrors) =>
      .ok { path := path.toString, source := contents.source, root, hasErrors }

/-- The result of a run over a file that is skipped. -/
def Result.ofSkipped (path : Path) : Result := { skipped := [path.toString] }

/-- The result of a run over a single file. -/
def checkFile (sources : Sources) (config : RuleConfig) (path : Path) : Result :=
  match sources path with
  | .ok parsed => check config parsed
  | .error _ => .ofSkipped path

/-- The result of a run over files. -/
def run (sources : Sources) (config : RuleConfig) (paths : List Path) : Result :=
  ((paths.map (checkFile sources config)).foldl Result.merge .empty).sort

namespace Run

/-- What is logged when a file is skipped. -/
def skipLine (path : Path) : SkipCause → LogLine
  | .unreadable error =>
    ⟨.warn, "skipping unreadable file", [("file", path.toString), ("error", error.message)]⟩
  | .unparsed =>
    ⟨.warn, "skipping file that failed to parse",
      [("file", path.toString), ("error", "failed to parse Swift source: " ++ path.toString)]⟩

/-- What is logged when a file is scanned. -/
def scanLines (parsed : ParsedSource) (config : RuleConfig) : List LogLine :=
  (if parsed.hasErrors then
    [⟨.debug, "parsed with recovered syntax errors", [("file", parsed.path)]⟩]
  else []) ++
  [⟨.debug, "scanned file",
    [("file", parsed.path), ("violations", toString (scan parsed config).length)]⟩]

/-- What is logged for a single file. -/
def fileLog (sources : Sources) (config : RuleConfig) (path : Path) : List LogLine :=
  match sources path with
  | .ok parsed => scanLines parsed config
  | .error cause => [skipLine path cause]

/-- What is logged at the end of a run. -/
def endLine (result : Result) : LogLine :=
  ⟨.info, "scan complete",
    [("scanned", toString result.scanned),
     ("violations", toString result.violations.length),
     ("suppressed", toString result.suppressed.length),
     ("skipped", toString result.skipped.length)]⟩

/-- What is logged in a run over files. -/
def log (sources : Sources) (config : RuleConfig) (paths : List Path) : List LogLine :=
  paths.flatMap (fileLog sources config) ++ [endLine (run sources config paths)]

end Run

end LeadingDot
