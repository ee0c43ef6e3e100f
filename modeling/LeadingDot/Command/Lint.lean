import LeadingDot.Collect
import LeadingDot.Command.Outcome
import LeadingDot.CommandLine.Invocation
import LeadingDot.ConfigFile
import LeadingDot.Report.Sarif
import LeadingDot.Report.Summary
import LeadingDot.Report.Terminal
import LeadingDot.Run

/-!
# The lint command

Lints a file or the Swift files in a directory, and reports what it finds. The
configuration comes from a file; options on the command line add to it.
-/

namespace LeadingDot

/-- The format of a report. -/
inductive ReportFormat where
  | pretty
  | json
  | sarif
  deriving DecidableEq, Repr

/-- The format with a name. -/
def ReportFormat.ofName? : String → Option ReportFormat
  | "pretty" => some pretty
  | "json" => some json
  | "sarif" => some sarif
  | _ => none

/-- Why nothing is linted. -/
inductive LintError where
  | format (name : String)
  | severity (error : UnknownSeverity)
  | target (path : Path) (error : DiskError)
  | config (error : ConfigFileError)
  | collect (directory : Path) (error : CollectError)

/-- What is said of an error and of what caused it. -/
def LintError.report : LintError → String
  | format name =>
    "invalid format " ++ Text.quoted name ++ ", must be 'pretty', 'json', or 'sarif'"
  | severity error => error.message
  | target path error =>
    "cannot access path " ++ Text.quoted path.toString ++ ": " ++ error.message
  | config error => error.report
  | collect directory error => "walking " ++ directory.toString ++ ": " ++ error.report

/-- What the options of the command line change in a configuration. -/
def Config.withOptions (config : Config) (names : List String) (severity : Option Severity) :
    Config :=
  { config with
    rule :=
      { severity := severity.getD config.rule.severity
        additionalModifiers := config.rule.additionalModifiers ++ names } }

/-- What a lint is about, once its arguments are known to be in order. -/
structure LintTask where
  format : ReportFormat
  severity : Option Severity
  /-- The file or directory, without links and dots. -/
  target : Path
  isDirectory : Bool
  /-- The configuration file to use, if there is one. -/
  configPath : Option Path

namespace LintTask

/-- The directory that a configuration file is looked for in and that reports are relative
to: the target, or the one that the target is in. -/
def home (target : Path) (isDirectory : Bool) : Path :=
  if isDirectory then target else target.parent?.getD target

/-- What a lint with some arguments is about. -/
def ofArguments (disk : Disk) (base : Path) (arguments : LintArguments) :
    Except LintError LintTask := do
  let some format := ReportFormat.ofName? arguments.format
    | throw (.format arguments.format)
  let severity ← (arguments.severity.mapM Severity.parse).mapError .severity
  let target ← (disk.canonical base arguments.path).mapError (.target arguments.path)
  let isDirectory := disk.isDirectory base target
  let configPath :=
    arguments.config.or (ConfigFile.find? disk base (home target isDirectory))
  return { format, severity, target, isDirectory, configPath }

/-- The files to scan. -/
def files (task : LintTask) (disk : Disk) (base : Path) (config : Config) :
    Except LintError (List Path) :=
  if task.isDirectory then
    (collect disk base task.target config).mapError (.collect task.target)
  else .ok [task.target]

/-- What is logged while the files to scan are collected. -/
def filesLog (task : LintTask) (disk : Disk) (base : Path) (config : Config) : List LogLine :=
  if task.isDirectory then collectLog disk base task.target config else []

/-- What is logged if there are no files to scan. -/
def emptyLog (task : LintTask) (files : List Path) : List LogLine :=
  if files.isEmpty then
    [⟨.warn, "no Swift files to scan", [("path", task.target.toString)]⟩]
  else []

/-- The report of a result. -/
def report (task : LintTask) (arguments : LintArguments) (result : Result) : Styled :=
  let path := arguments.path.toString
  let config := task.configPath.map Path.toString
  match task.format with
  | .json => .plain ((Report.Summary.ofResult path config result).toJson.pretty ++ "\n")
  | .sarif =>
    let base := home task.target task.isDirectory
    .plain ((Sarif.Log.ofResult base result).toJson.pretty ++ "\n")
  | .pretty =>
    Report.terminal path config result (result.exitCode arguments.strict == .success)
      arguments.listSuppressed

end LintTask

/-- Lints. -/
def lint (disk : Disk) (base : Path) (arguments : LintArguments) : Outcome :=
  let failure (log : List LogLine) (error : LintError) : Outcome :=
    .failure disk log ["Error: " ++ error.report]
  match LintTask.ofArguments disk base arguments with
  | .error error => failure [] error
  | .ok task =>
    let log := ConfigFile.loadLog task.configPath
    match ConfigFile.load disk base task.configPath with
    | .error error => failure log (.config error)
    | .ok loaded =>
      let config := loaded.withOptions arguments.additionalModifiers task.severity
      let log := log ++ ConfigFile.nameLog loaded ++ task.filesLog disk base config
      match task.files disk base config with
      | .error error => failure log error
      | .ok files =>
        let sources := disk.sources base
        let result := run sources config.rule files
        let log := log ++ task.emptyLog files ++ Run.log sources config.rule files
        { exit := result.exitCode arguments.strict
          output := task.report arguments result
          notices := log.map .log
          disk }

end LeadingDot
