import LeadingDot.Proofs.Files.Disk
import LeadingDot.Proofs.Run.Names

/-!
# The verdict of a lint

A lint with arguments in order scans the files of its target and ends with one of two exit
codes. The code tells whether a call is reported that no directive of its file suppresses, and
whether such calls count: neither what is suppressed or skipped nor the format of the report
plays a part in it. Options on the command line stand for what could have been configured.
-/

namespace LeadingDot

/-! ## The course of a lint -/

/-- A format with one of the known names is known. -/
theorem ReportFormat.exists_ofName? {name : String} (h : name ∈ ["pretty", "json", "sarif"]) :
    ∃ format, ofName? name = some format := by
  simp only [List.mem_cons, List.not_mem_nil, or_false] at h
  rcases h with rfl | rfl | rfl
  · exact ⟨pretty, rfl⟩
  · exact ⟨json, rfl⟩
  · exact ⟨sarif, rfl⟩

/-- A configuration is loaded if it is read, or none is asked for, and its patterns are in
order. -/
theorem ConfigFile.load_eq_ok_iff {disk : Disk} {base : Path} {path? : Option Path}
    {loaded : Config} : load disk base path? = .ok loaded ↔
      path?.elim (.ok .default) (read disk base) = .ok loaded ∧
        ∃ exclusion, loaded.exclusion = .ok exclusion := by
  have hload : load disk base path? =
      (path?.elim (.ok .default) (read disk base)).bind fun config =>
        (config.exclusion.mapError ConfigFileError.pattern).bind fun _ => .ok config := by
    cases path? <;> rfl
  rw [hload]
  cases path?.elim (.ok .default) (read disk base) with
  | error error =>
    constructor
    · intro h
      cases h
    · rintro ⟨h, -⟩
      cases h
  | ok config =>
    rw [Except.ok.injEq]
    constructor
    · intro h
      cases hexclusion : config.exclusion with
      | error error =>
        simp only [Except.bind, hexclusion] at h
        cases h
      | ok exclusion =>
        simp only [Except.bind, hexclusion] at h
        cases h
        exact ⟨rfl, exclusion, hexclusion⟩
    · rintro ⟨rfl, exclusion, hexclusion⟩
      simp only [Except.bind, hexclusion]
      rfl

/-- A file that holds the text of a configuration is read as that configuration. -/
theorem ConfigFile.read_of_find {disk : Disk} {base path : Path} {location : List FileName}
    {contents : FileContents} {text : String} {config : Config}
    (hfind : disk.find base path = .ok ⟨location, .file (some contents)⟩)
    (htext : Text.Utf8.decode? contents.source.bytes.toList = some text.toList)
    (hconfig : (Config.ofText text).toOption = some config) :
    read disk base path = .ok config := by
  have hread : disk.readText base path = .ok text := by
    simp only [Disk.readText, Disk.read, hfind, bind, Except.bind, htext, String.ofList_toList]
    rfl
  rw [read, hread]
  change (Config.ofText text).mapError _ = _
  cases hresult : Config.ofText text with
  | error error =>
    rw [hresult] at hconfig
    cases hconfig
  | ok other =>
    rw [hresult] at hconfig
    exact congrArg Except.ok (Option.some.inj hconfig)

/-- A walk that comes upon no error gives the paths of the files. -/
theorem Walk.exists_paths {findings : List Walk.Finding}
    (h : ∀ found ∈ findings, ∃ path, found = .ok path) :
    ∃ paths, findings.mapM id = .ok paths := by
  induction findings with
  | nil => exact ⟨[], rfl⟩
  | cons found findings ih =>
    obtain ⟨path, rfl⟩ := h found List.mem_cons_self
    obtain ⟨paths, hpaths⟩ := ih fun found hfound => h found (List.mem_cons_of_mem _ hfound)
    refine ⟨path :: paths, ?_⟩
    rw [List.mapM_cons, hpaths]
    rfl

namespace Lint

/-- Arguments that something is linted with: their format and severity are known, their path
leads to something, the configuration can be loaded, and if the path leads to a directory, a
walk through it comes upon no error. -/
structure Runnable (disk : Disk) (base : Path) (arguments : LintArguments)
    (severity : Option Severity) (target : Path) (loaded : Config) : Prop where
  format_mem : arguments.format ∈ ["pretty", "json", "sarif"]
  severity_eq : arguments.severity.mapM Severity.parse = .ok severity
  target_eq : disk.canonical base arguments.path = .ok target
  loaded_eq : ConfigFile.load disk base (arguments.config.or
    (ConfigFile.find? disk base (LintTask.home target (disk.isDirectory base target)))) = .ok loaded
  walked : disk.isDirectory base target = true →
    ∀ found ∈ disk.walk base target, ∃ path, found = .ok path

/-- The files to scan: what is collected in a directory, or the target itself. -/
def ToScan (disk : Disk) (base target : Path) (config : Config) (files : List Path) : Prop :=
  if disk.isDirectory base target then collect disk base target config = .ok files
  else files = [target]

/-- A lint comes to a result by a run over the files to scan, once its arguments are known to be
in order and its configuration is loaded. -/
def ComesTo (disk : Disk) (base : Path) (arguments : LintArguments) (result : Result) : Prop :=
  ∃ task loaded files, LintTask.ofArguments disk base arguments = .ok task ∧
    ConfigFile.load disk base task.configPath = .ok loaded ∧
    task.files disk base (loaded.withOptions arguments.additionalModifiers task.severity) =
      .ok files ∧
    run (disk.sources base)
      (loaded.withOptions arguments.additionalModifiers task.severity).rule files = result

variable {disk : Disk} {base : Path} {arguments : LintArguments} {severity : Option Severity}
  {target : Path} {loaded : Config} {files : List Path} {result : Result}

/-- There is one result that a lint comes to. -/
theorem ComesTo.unique {first second : Result} (hfirst : ComesTo disk base arguments first)
    (hsecond : ComesTo disk base arguments second) : first = second := by
  obtain ⟨task, loaded, files, htask, hloaded, hfiles, rfl⟩ := hfirst
  obtain ⟨task', loaded', files', htask', hloaded', hfiles', rfl⟩ := hsecond
  obtain rfl : task = task' := Except.ok.inj (htask.symm.trans htask')
  obtain rfl : loaded = loaded' := Except.ok.inj (hloaded.symm.trans hloaded')
  obtain rfl : files = files' := Except.ok.inj (hfiles.symm.trans hfiles')
  rfl

/-- The result and the way it is to be reported decide about the outcome. -/
theorem ComesTo.exists_outcome (h : ComesTo disk base arguments result) :
    ∃ task notices, LintTask.ofArguments disk base arguments = .ok task ∧
      lint disk base arguments =
        { exit := result.exitCode arguments.strict
          output := task.report arguments result
          notices
          disk } := by
  obtain ⟨task, loaded, files, htask, hloaded, hfiles, rfl⟩ := h
  refine ⟨task, (lint disk base arguments).notices, htask, ?_⟩
  simp only [lint, htask, hloaded, hfiles]

theorem ComesTo.exit_eq (h : ComesTo disk base arguments result) :
    (lint disk base arguments).exit = result.exitCode arguments.strict := by
  obtain ⟨task, notices, -, hlint⟩ := h.exists_outcome
  rw [hlint]

namespace Runnable

/-- There are files to scan, or none, but no error. -/
theorem exists_toScan (h : Runnable disk base arguments severity target loaded) :
    ∃ files, ToScan disk base target loaded files := by
  unfold ToScan
  split
  · next hdirectory =>
    obtain ⟨exclusion, hexclusion⟩ := (ConfigFile.load_eq_ok_iff.mp h.loaded_eq).2
    obtain ⟨paths, hpaths⟩ := Walk.exists_paths (h.walked hdirectory)
    rw [collect, hexclusion, hpaths]
    exact ⟨_, rfl⟩
  · exact ⟨[target], rfl⟩

/-- A lint comes to the result of a run over the files to scan. -/
theorem comesTo (h : Runnable disk base arguments severity target loaded)
    (hfiles : ToScan disk base target loaded files) :
    ComesTo disk base arguments (run (disk.sources base)
      (loaded.withOptions arguments.additionalModifiers severity).rule files) := by
  obtain ⟨format, hformat⟩ := ReportFormat.exists_ofName? h.format_mem
  have htask : LintTask.ofArguments disk base arguments = .ok
      { format, severity, target
        isDirectory := disk.isDirectory base target
        configPath := arguments.config.or (ConfigFile.find? disk base
          (LintTask.home target (disk.isDirectory base target))) } := by
    simp only [LintTask.ofArguments, hformat, h.severity_eq, h.target_eq]
    rfl
  refine ⟨_, loaded, files, htask, h.loaded_eq, ?_, rfl⟩
  -- The options of the command line do not change what is collected.
  have hcollect : collect disk base target
      (loaded.withOptions arguments.additionalModifiers severity) =
        collect disk base target loaded := rfl
  unfold ToScan at hfiles
  rw [LintTask.files, hcollect]
  split at hfiles
  · next hdirectory =>
    rw [if_pos hdirectory, hfiles]
    rfl
  · next hfile => rw [if_neg hfile, hfiles]

end Runnable

/-! ## The exit code -/

/-- Whether one of the files can be read and holds a call that is reported and that none of the
directives in the file suppresses. -/
def HasActive (sources : Sources) (config : RuleConfig) (files : List Path) : Prop :=
  ∃ path ∈ files, ∃ parsed, sources path = .ok parsed ∧ ∃ found ∈ scan parsed config,
    ∀ suppression ∈ parsed.suppressions, suppression.covers found = false

/-- A violation counts in a check if it is found and nothing suppresses it. -/
theorem mem_violations_check {config : RuleConfig} {parsed : ParsedSource} {found : Violation} :
    found ∈ (check config parsed).violations ↔ found ∈ scan parsed config ∧
      ∀ suppression ∈ parsed.suppressions, suppression.covers found = false := by
  rw [check, Result.filter, Suppression.mem_active_iff]

/-- The severity of all violations is the one that is set, so that it is settled before the scan
whether they count. -/
theorem toNat_exitCode_run_eq_one_iff {sources : Sources} {config : RuleConfig} {strict : Bool} :
    ((run sources config files).exitCode strict).toNat = 1 ↔
      HasActive sources config files ∧ (strict = true ∨ config.severity = .error) := by
  rw [Result.toNat_exitCode_eq_one_iff]
  constructor
  · rintro ⟨found, hfound, hcounts⟩
    obtain ⟨path, hpath, parsed, hparsed, hcheck⟩ := Run.mem_violations.mp hfound
    obtain ⟨hscan, hactive⟩ := mem_violations_check.mp hcheck
    rw [Scan.severity_of_mem_scan hscan] at hcounts
    exact ⟨⟨path, hpath, parsed, hparsed, found, hscan, hactive⟩, hcounts⟩
  · rintro ⟨⟨path, hpath, parsed, hparsed, found, hscan, hactive⟩, hcounts⟩
    have hcheck := mem_violations_check.mpr ⟨hscan, hactive⟩
    refine ⟨found, Run.mem_violations.mpr ⟨path, hpath, parsed, hparsed, hcheck⟩, ?_⟩
    rwa [Scan.severity_of_mem_scan hscan]

/-! ## Options and configurations -/

/-- The same is to be scanned at a path of two disks: it leads to a directory on both or on
neither, a walk from there comes upon the same, and the files hold the same sources. -/
structure SameAt (disk : Disk) (base : Path) (other : Disk) (otherBase target : Path)
    (files : List Path) : Prop where
  isDirectory_eq : other.isDirectory otherBase target = disk.isDirectory base target
  walk_eq : other.walk otherBase target = disk.walk base target
  sources_eq : ∀ path ∈ files, other.sources otherBase path = disk.sources base path

variable {other : Disk} {otherBase : Path}

/-- The settings of the rule play no part in which files are scanned. -/
theorem ToScan.withRule (h : ToScan disk base target loaded files)
    (hsame : SameAt disk base other otherBase target files) (rule : RuleConfig) :
    ToScan other otherBase target { loaded with rule } files := by
  have hcollect : collect other otherBase target { loaded with rule } =
      collect disk base target loaded := by
    rw [collect, collect, hsame.walk_eq]
    rfl
  rw [ToScan, hsame.isDirectory_eq, hcollect]
  exact h

theorem SameAt.run_eq (hsame : SameAt disk base other otherBase target files)
    (config : RuleConfig) :
    run (other.sources otherBase) config files = run (disk.sources base) config files := by
  have hfiles : files.map (checkFile (other.sources otherBase) config) =
      files.map (checkFile (disk.sources base) config) := by
    apply List.map_congr_left
    intro path hpath
    unfold checkFile
    rw [hsame.sources_eq path hpath]
  rw [run, run, hfiles]

/-- A lint without options that has the options of another one in its configuration comes to
the same result. -/
theorem Runnable.comesTo_configured {others : LintArguments} {names : List String}
    (h : Runnable other otherBase others none target
      { loaded with
        rule := ⟨severity.getD loaded.rule.severity, loaded.rule.additionalModifiers ++ names⟩ })
    (hnames : others.additionalModifiers = []) (hfiles : ToScan disk base target loaded files)
    (hsame : SameAt disk base other otherBase target files) :
    ComesTo other otherBase others
      (run (disk.sources base) (loaded.withOptions names severity).rule files) := by
  have hcomes := h.comesTo (hfiles.withRule hsame _)
  rw [hsame.run_eq, hnames] at hcomes
  simpa only [Config.withOptions, List.append_nil, Option.getD_none] using hcomes

/-! ## The verdict -/

/-- What is decided about a lint with the files to scan. -/
structure Judged (disk : Disk) (base : Path) (arguments : LintArguments)
    (severity : Option Severity) (target : Path) (loaded : Config) (files : List Path) : Prop where
  /-- It comes to the result of a run over the files. -/
  comesTo : ComesTo disk base arguments (run (disk.sources base)
    (loaded.withOptions arguments.additionalModifiers severity).rule files)
  /-- It reports the result that it comes to. -/
  output_eq : ∀ result, ComesTo disk base arguments result →
    ∃ task, LintTask.ofArguments disk base arguments = .ok task ∧
      (lint disk base arguments).output = task.report arguments result
  /-- It fails if some call is reported in a file and not suppressed there, and if warnings count
  or the severity in effect is that of errors. -/
  exit_eq_one_iff : (lint disk base arguments).exit.toNat = 1 ↔
    HasActive (disk.sources base) (loaded.withOptions arguments.additionalModifiers severity).rule
        files ∧
      (arguments.strict = true ∨ severity.getD loaded.rule.severity = .error)
  /-- Otherwise it succeeds. -/
  exit_eq_zero : (lint disk base arguments).exit.toNat ≠ 1 →
    (lint disk base arguments).exit.toNat = 0
  /-- What the report looks like plays no part in it. -/
  sameReports : ∀ format ∈ ["pretty", "json", "sarif"], ∀ listSuppressed,
    (lint disk base { arguments with format, listSuppressed }).exit =
      (lint disk base arguments).exit
  /-- The same files give the same result and exit code without the options, if the names are
  appended to the configured ones and the severity takes the place of the configured one. -/
  sameConfigured : ∀ (other : Disk) (otherBase : Path) (others : LintArguments),
    Runnable other otherBase others none target
      { loaded with
        rule :=
          { severity := severity.getD loaded.rule.severity
            additionalModifiers :=
              loaded.rule.additionalModifiers ++ arguments.additionalModifiers } } →
    others.additionalModifiers = [] → others.strict = arguments.strict →
    SameAt disk base other otherBase target files →
    (∀ result, ComesTo other otherBase others result ↔ ComesTo disk base arguments result) ∧
      (lint other otherBase others).exit = (lint disk base arguments).exit

/-- A lint that can be carried out is decided by what is reported and not suppressed in the files
to scan, and by whether that counts. -/
theorem exists_judged (h : Runnable disk base arguments severity target loaded) :
    ∃ files, ToScan disk base target loaded files ∧
      Judged disk base arguments severity target loaded files := by
  obtain ⟨files, hfiles⟩ := h.exists_toScan
  have hcomes := h.comesTo hfiles
  refine ⟨files, hfiles, {
    comesTo := hcomes
    output_eq := ?_
    exit_eq_one_iff := ?_
    exit_eq_zero := ?_
    sameReports := ?_
    sameConfigured := ?_ }⟩
  · intro result hresult
    obtain ⟨task, notices, htask, hlint⟩ := hresult.exists_outcome
    exact ⟨task, htask, by rw [hlint]⟩
  · rw [hcomes.exit_eq]
    exact toNat_exitCode_run_eq_one_iff
  · intro hne
    rw [hcomes.exit_eq] at hne ⊢
    exact (Result.toNat_exitCode_eq_zero_or_one _ _).resolve_right hne
  · intro format hformat listSuppressed
    have hother : Runnable disk base { arguments with format, listSuppressed } severity target
        loaded := { h with format_mem := hformat }
    rw [hcomes.exit_eq, (hother.comesTo hfiles).exit_eq]
  · intro other otherBase others hothers hnames hstrict hsame
    have hconfigured := hothers.comesTo_configured hnames hfiles hsame
    constructor
    · intro result
      constructor
      · intro hresult
        rwa [hresult.unique hconfigured]
      · intro hresult
        rwa [hresult.unique hcomes]
    · rw [hconfigured.exit_eq, hcomes.exit_eq, hstrict]

/-! ## A bare call as an example -/

/-- A configuration with a name of its own. -/
def plainConfig : String := "missing_dot_swiftui_modifier:\n  additional_modifiers: [g]\n"

/-- The configuration with another name and a severity, which could also be options. -/
def fullConfig : String :=
  "missing_dot_swiftui_modifier:\n  severity: warning\n  additional_modifiers: [g, f]\n"

/-- A disk with a bare call and both configurations. -/
def bareCallDisk : Disk :=
  ⟨[(.ofString "a", .file (some ⟨Scan.bareCall.source, some (Scan.bareCall.root, false)⟩)),
    (.ofString "b", .file (some ⟨⟨plainConfig.toUTF8.data⟩, none⟩)),
    (.ofString "c", .file (some ⟨⟨fullConfig.toUTF8.data⟩, none⟩))]⟩

/-- A strict lint of the bare call with options. -/
def optionArguments : LintArguments where
  path := .ofString "a"
  config := some (.ofString "b")
  format := "json"
  additionalModifiers := ["f"]
  severity := some "Warning"
  strict := true
  listSuppressed := false

/-- The lint with a configuration in place of the options. -/
def configArguments : LintArguments :=
  { optionArguments with config := some (.ofString "c"), additionalModifiers := [], severity := none }

theorem find_bareCallDisk {path : Path} {name : FileName} {contents? : Option FileContents}
    (hpath : path.text ≠ [] ∧ path.text.length ≤ Path.maxLength)
    (hsteps : (Path.root.join path).steps = [name])
    (hname : IsName name ∧ name.length ≤ FileName.maxLength)
    (hfile : Disk.lookup? bareCallDisk.root name = some (.file contents?)) :
    bareCallDisk.find .root path = .ok ⟨[name], .file contents?⟩ :=
  Disk.find_of_steps hpath.1 hpath.2 hsteps hname.1 hname.2 hfile

/-- The file with the bare call, by its path from the root. -/
theorem find_bareCall : bareCallDisk.find .root (.ofString "/a") =
    .ok ⟨[.ofString "a"], .file (some ⟨Scan.bareCall.source, some (Scan.bareCall.root, false)⟩)⟩ :=
  find_bareCallDisk (by decide +kernel) (by decide +kernel) (by decide +kernel) rfl

theorem isDirectory_bareCall : bareCallDisk.isDirectory .root (.ofString "/a") = false := by
  rw [Disk.isDirectory, find_bareCall]

theorem sources_bareCall : bareCallDisk.sources .root (.ofString "/a") =
    .ok { Scan.bareCall with path := "/a" } := by
  simp only [Disk.sources, Disk.read, find_bareCall, Path.toString_ofString]
  rfl

/-- The configurations are those that their texts say. -/
theorem load_plainConfig : ConfigFile.load bareCallDisk .root (some (.ofString "b")) =
    .ok { rule := ⟨.error, ["g"]⟩ } := by
  have hfind : bareCallDisk.find .root (.ofString "b") =
      .ok ⟨[.ofString "b"], .file (some ⟨⟨plainConfig.toUTF8.data⟩, none⟩)⟩ :=
    find_bareCallDisk (by decide +kernel) (by decide +kernel) (by decide +kernel) rfl
  have htext : Text.Utf8.decode? plainConfig.toUTF8.data.toList = some plainConfig.toList := by
    decide +kernel
  have hconfig : (Config.ofText plainConfig).toOption = some { rule := ⟨.error, ["g"]⟩ } := by
    decide +kernel
  have hread := ConfigFile.read_of_find hfind htext hconfig
  exact ConfigFile.load_eq_ok_iff.mpr ⟨hread, ⟨[]⟩, rfl⟩

theorem load_fullConfig : ConfigFile.load bareCallDisk .root (some (.ofString "c")) =
    .ok { rule := ⟨.warning, ["g", "f"]⟩ } := by
  have hfind : bareCallDisk.find .root (.ofString "c") =
      .ok ⟨[.ofString "c"], .file (some ⟨⟨fullConfig.toUTF8.data⟩, none⟩)⟩ :=
    find_bareCallDisk (by decide +kernel) (by decide +kernel) (by decide +kernel) rfl
  have htext : Text.Utf8.decode? fullConfig.toUTF8.data.toList = some fullConfig.toList := by
    decide +kernel
  have hconfig : (Config.ofText fullConfig).toOption = some { rule := ⟨.warning, ["g", "f"]⟩ } := by
    decide +kernel
  have hread := ConfigFile.read_of_find hfind htext hconfig
  exact ConfigFile.load_eq_ok_iff.mpr ⟨hread, ⟨[]⟩, rfl⟩

/-- Arguments that name the bare call and a configuration that can be loaded are in order. -/
theorem runnable_bareCall {path : Path} (hpath : arguments.path = .ofString "a")
    (hformat : arguments.format = "json") (hconfig : arguments.config = some path)
    (hseverity : arguments.severity.mapM Severity.parse = .ok severity)
    (hloaded : ConfigFile.load bareCallDisk .root (some path) = .ok loaded) :
    Runnable bareCallDisk .root arguments severity (.ofString "/a") loaded := by
  have hfind : bareCallDisk.find .root (.ofString "a") =
      .ok ⟨[.ofString "a"], .file (some ⟨Scan.bareCall.source, some (Scan.bareCall.root, false)⟩)⟩ :=
    find_bareCallDisk (by decide +kernel) (by decide +kernel) (by decide +kernel) rfl
  refine {
    format_mem := by rw [hformat]; decide
    severity_eq := hseverity
    target_eq := ?_
    loaded_eq := by rw [hconfig]; exact hloaded
    walked := ?_ }
  · rw [hpath, Disk.canonical, hfind]
    rfl
  · intro hdirectory
    rw [isDirectory_bareCall] at hdirectory
    cases hdirectory

/-- The bare call fails a strict lint, whether its name is an option or configured. -/
theorem exists_judged_bareCall :
    Runnable bareCallDisk .root optionArguments (some .warning) (.ofString "/a")
        { rule := ⟨.error, ["g"]⟩ } ∧
      (lint bareCallDisk .root optionArguments).exit.toNat = 1 ∧
      (lint bareCallDisk .root configArguments).exit.toNat = 1 := by
  have hoption : Runnable bareCallDisk .root optionArguments (some .warning) (.ofString "/a")
      { rule := ⟨.error, ["g"]⟩ } :=
    runnable_bareCall rfl rfl rfl (by decide +kernel) load_plainConfig
  have hconfig : Runnable bareCallDisk .root configArguments none (.ofString "/a")
      { rule := ⟨.warning, ["g", "f"]⟩ } := runnable_bareCall rfl rfl rfl rfl load_fullConfig
  obtain ⟨files, hfiles, hjudged⟩ := exists_judged hoption
  rw [ToScan, isDirectory_bareCall, if_neg Bool.false_ne_true] at hfiles
  have hsuppressions : ParsedSource.suppressions { Scan.bareCall with path := "/a" } = [] := by
    decide +kernel
  obtain ⟨found, hfound, -⟩ :=
    @Scan.exists_mem_scan_bareCall ⟨.warning, ["g", "f"]⟩ (by decide) "/a"
  have hfails : (lint bareCallDisk .root optionArguments).exit.toNat = 1 := by
    rw [hjudged.exit_eq_one_iff, hfiles]
    refine ⟨⟨_, List.mem_singleton_self _, _, sources_bareCall, found, hfound, ?_⟩, Or.inl rfl⟩
    rw [hsuppressions]
    intro suppression hsuppression
    cases hsuppression
  obtain ⟨-, hsame⟩ := hjudged.sameConfigured _ _ configArguments hconfig rfl rfl
    ⟨rfl, rfl, fun _ _ => rfl⟩
  exact ⟨hoption, hfails, by rw [hsame, hfails]⟩

end Lint

end LeadingDot
