import LeadingDot.Command.Lint
import LeadingDot.Proofs.Result.Verdict
import LeadingDot.Proofs.Scan.Names
import LeadingDot.Proofs.Tree.Neighbours

/-!
# Runs with more names

No stage of a run lets one reported identifier influence another one. A run for some names
therefore gives what a run for more names gives, restricted to the violations that quote one of
the names: suppressing, merging and sorting all commute with the restriction. In the same way
they commute with a change of severity.
-/

namespace LeadingDot

namespace Result

/-- A result with those of its violations, active or suppressed, for which `p` holds. -/
def restrict (p : Violation → Bool) (result : Result) : Result :=
  { result with
    violations := result.violations.filter p
    suppressed := result.suppressed.filter fun found => p found.violation }

/-- A result with another severity of all its violations. -/
def withSeverity (severity : Severity) (result : Result) : Result :=
  { result with
    violations := result.violations.map (Violation.withSeverity severity)
    suppressed := result.suppressed.map fun found =>
      ⟨found.violation.withSeverity severity, found.suppression⟩ }

theorem restrict_merge (p : Violation → Bool) (a b : Result) :
    (a.merge b).restrict p = (a.restrict p).merge (b.restrict p) := by
  simp only [restrict, merge, List.filter_append]

theorem restrict_sort (p : Violation → Bool) (result : Result) :
    result.sort.restrict p = (result.restrict p).sort := by
  have hviolations := filter_mergeSort Violation.precedes_trans Violation.precedes_total p
    result.violations
  have hsuppressed := filter_mergeSort Suppressed.precedes_trans Suppressed.precedes_total
    (fun found => p found.violation) result.suppressed
  rw [restrict, sort, sort, restrict, hviolations]
  congr 1

theorem withSeverity_merge (severity : Severity) (a b : Result) :
    (a.merge b).withSeverity severity =
      (a.withSeverity severity).merge (b.withSeverity severity) := by
  simp only [withSeverity, merge, List.map_append]

/-- The severity plays no part in the order of violations. -/
theorem withSeverity_sort (severity : Severity) (result : Result) :
    result.sort.withSeverity severity = (result.withSeverity severity).sort := by
  rw [withSeverity, sort, sort, withSeverity, List.map_mergeSort, List.map_mergeSort]
  · intro a _ b _
    rfl
  · intro a _ b _
    rfl

end Result

namespace Suppression

/-- Violations are suppressed one by one. -/
theorem active_filter (suppressions : List Suppression) (p : Violation → Bool)
    (violations : List Violation) :
    active suppressions (violations.filter p) = (active suppressions violations).filter p := by
  simp only [active, List.filter_filter, Bool.and_comm]

theorem suppressed_filter (suppressions : List Suppression) (p : Violation → Bool)
    (violations : List Violation) :
    suppressed suppressions (violations.filter p) =
      (suppressed suppressions violations).filter fun found => p found.violation := by
  rw [suppressed, suppressed, List.filterMap_filter, List.filter_filterMap]
  congr 1
  funext found
  cases cover? suppressions found with
  | none => simp
  | some suppression => cases hp : p found <;> simp [hp, Option.filter]

/-- The severity plays no part in what covers a violation. -/
theorem cover?_withSeverity (suppressions : List Suppression) (severity : Severity)
    (found : Violation) :
    cover? suppressions (found.withSeverity severity) = cover? suppressions found := rfl

theorem active_withSeverity (suppressions : List Suppression) (severity : Severity)
    (violations : List Violation) :
    active suppressions (violations.map (Violation.withSeverity severity)) =
      (active suppressions violations).map (Violation.withSeverity severity) := by
  simp only [active, List.filter_map, Function.comp_def, cover?_withSeverity]

theorem suppressed_withSeverity (suppressions : List Suppression) (severity : Severity)
    (violations : List Violation) :
    suppressed suppressions (violations.map (Violation.withSeverity severity)) =
      (suppressed suppressions violations).map fun found =>
        ⟨found.violation.withSeverity severity, found.suppression⟩ := by
  simp only [suppressed, List.filterMap_map, List.map_filterMap, Function.comp_def,
    cover?_withSeverity, Option.map_map]

end Suppression

namespace Run

variable {sources : Sources} {config other : RuleConfig} {parsed : ParsedSource}

/-- What is done to the result of every file is done to the result of the run, if it goes along
with merging and sorting. -/
theorem run_eq_of_checkFile (f : Result → Result) (hempty : f .empty = .empty)
    (hmerge : ∀ a b, f (a.merge b) = (f a).merge (f b)) (hsort : ∀ a, f a.sort = (f a).sort)
    (hfile : ∀ path, checkFile sources config path = f (checkFile sources other path))
    (paths : List Path) : run sources config paths = f (run sources other paths) := by
  have hfiles : paths.map (checkFile sources config) =
      (paths.map (checkFile sources other)).map f := by
    rw [List.map_map]
    exact List.map_congr_left fun path _ => hfile path
  have hfold : ∀ (results : List Result) (start : Result),
      (results.map f).foldl Result.merge (f start) = f (results.foldl Result.merge start) := by
    intro results
    induction results with
    | nil => exact fun start => rfl
    | cons result results ih =>
      intro start
      rw [List.map_cons, List.foldl_cons, List.foldl_cons, ← hmerge, ih]
  rw [run, run, hfiles, hsort, ← hfold, hempty]

/-- A check for some names gives what one for more names gives, as far as it quotes one of them. -/
theorem check_eq_restrict (h : config.additionalModifiers ⊆ other.additionalModifiers)
    (hseverity : config.severity = other.severity) :
    check config parsed = (check other parsed).restrict fun found =>
      Scan.IsModifier config.additionalModifiers found.quotedName := by
  rw [check, check, Scan.scan_eq_filter h hseverity]
  simp only [Result.filter, Result.restrict, Suppression.active_filter,
    Suppression.suppressed_filter, List.nil_append]

theorem run_eq_restrict (h : config.additionalModifiers ⊆ other.additionalModifiers)
    (hseverity : config.severity = other.severity) (paths : List Path) :
    run sources config paths = (run sources other paths).restrict fun found =>
      Scan.IsModifier config.additionalModifiers found.quotedName := by
  apply run_eq_of_checkFile _ rfl (Result.restrict_merge _) (Result.restrict_sort _)
  intro path
  unfold checkFile
  cases sources path with
  | ok parsed => exact check_eq_restrict h hseverity
  | error cause => rfl

/-- A check with another severity, for names that say the same, differs in the severity alone. -/
theorem check_eq_withSeverity (h : ∀ name, Scan.IsModifier config.additionalModifiers name ↔
    Scan.IsModifier other.additionalModifiers name) :
    check config parsed = (check other parsed).withSeverity config.severity := by
  rw [check, check, Scan.scan_withSeverity h]
  simp only [Result.filter, Result.withSeverity, Suppression.active_withSeverity,
    Suppression.suppressed_withSeverity, List.nil_append]

theorem run_eq_withSeverity (h : ∀ name, Scan.IsModifier config.additionalModifiers name ↔
    Scan.IsModifier other.additionalModifiers name) (paths : List Path) :
    run sources config paths = (run sources other paths).withSeverity config.severity := by
  apply run_eq_of_checkFile _ rfl (Result.withSeverity_merge _) (Result.withSeverity_sort _)
  intro path
  unfold checkFile
  cases sources path with
  | ok parsed => exact check_eq_withSeverity h
  | error cause => rfl

/-- Every message of a run quotes a name. -/
theorem message_of_mem_violations {paths : List Path} {found : Violation}
    (h : found ∈ (run sources config paths).violations) :
    found.message = "Missing '" ++ found.quotedName ++ "' leading dot" := by
  obtain ⟨path, -, parsed, -, hfound⟩ := mem_violations.mp h
  obtain ⟨node, rfl⟩ := Scan.exists_of_mem_scan (mem_scan_of_mem_violations hfound)
  rw [Scan.quotedName_violation]
  rfl

theorem message_of_mem_suppressed {paths : List Path} {found : Suppressed}
    (h : found ∈ (run sources config paths).suppressed) :
    found.violation.message = "Missing '" ++ found.violation.quotedName ++ "' leading dot" := by
  obtain ⟨path, -, parsed, -, hfound⟩ := mem_suppressed.mp h
  obtain ⟨node, hnode⟩ := Scan.exists_of_mem_scan (mem_scan_of_mem_suppressed hfound)
  rw [← hnode, Scan.quotedName_violation]
  rfl

/-- What runs that differ in their settings have in common, where `names` are the added names
of one run and `more` those of another. -/
structure NamesOnlyAdd (sources : Sources) (severity : Severity) (names more : List String)
    (paths : List Path) : Prop where
  /-- The name that an entry is about is quoted in its message. -/
  quotes : ∀ found ∈ (run sources ⟨severity, more⟩ paths).violations ++
      (run sources ⟨severity, more⟩ paths).suppressed.map (·.violation),
    found.message = "Missing '" ++ found.quotedName ++ "' leading dot"
  /-- Fewer names give those of the entries that are about a built-in name or one of them, in the
  same order. -/
  violations_eq : (run sources ⟨severity, names⟩ paths).violations =
    (run sources ⟨severity, more⟩ paths).violations.filter fun found =>
      found.quotedName ∈ builtinModifiers ∨ found.quotedName ∈ names ∧ found.quotedName ≠ ""
  suppressed_eq : (run sources ⟨severity, names⟩ paths).suppressed =
    (run sources ⟨severity, more⟩ paths).suppressed.filter fun found =>
      found.violation.quotedName ∈ builtinModifiers ∨
        found.violation.quotedName ∈ names ∧ found.violation.quotedName ≠ ""
  scanned_eq : (run sources ⟨severity, names⟩ paths).scanned =
    (run sources ⟨severity, more⟩ paths).scanned
  skipped_eq : (run sources ⟨severity, names⟩ paths).skipped =
    (run sources ⟨severity, more⟩ paths).skipped
  /-- With more names the exit code is not less. -/
  exitCode_le : ∀ strict, ((run sources ⟨severity, names⟩ paths).exitCode strict).toNat ≤
    ((run sources ⟨severity, more⟩ paths).exitCode strict).toNat
  /-- The order of the names, repetitions and the empty name make no difference. -/
  sameNames : ∀ others : List String, (∀ name, name ≠ "" → (name ∈ others ↔ name ∈ names)) →
    run sources ⟨severity, others⟩ paths = run sources ⟨severity, names⟩ paths
  /-- Nor does it make one which of them are configured and which are given as options. -/
  sameOptions : ∀ (loaded : Config) (added : List String) (option : Option Severity),
    option.getD loaded.rule.severity = severity →
    (∀ name, name ≠ "" → (name ∈ loaded.rule.additionalModifiers ++ added ↔ name ∈ names)) →
    run sources (loaded.withOptions added option).rule paths = run sources ⟨severity, names⟩ paths
  /-- Another severity changes the severity of the entries and nothing else. -/
  otherSeverity : ∀ other, run sources ⟨other, names⟩ paths =
    (run sources ⟨severity, names⟩ paths).withSeverity other

/-- Names that say the same give the same run. -/
theorem run_congr {paths : List Path} (hseverity : config.severity = other.severity)
    (h : ∀ name, name ≠ "" →
      (name ∈ config.additionalModifiers ↔ name ∈ other.additionalModifiers)) :
    run sources config paths = run sources other paths := by
  have hnames := Scan.isModifier_congr h
  have hself : run sources other paths = (run sources other paths).withSeverity other.severity :=
    run_eq_withSeverity (fun _ => Iff.rfl) paths
  rw [run_eq_withSeverity hnames, hseverity, ← hself]

end Run

/-- More names add findings to a run and change nothing else. -/
theorem namesOnlyAdd_run (sources : Sources) (severity : Severity) {names more : List String}
    (h : names ⊆ more) (paths : List Path) :
    Run.NamesOnlyAdd sources severity names more paths := by
  have hrun : run sources ⟨severity, names⟩ paths =
      (run sources ⟨severity, more⟩ paths).restrict fun found =>
        Scan.IsModifier names found.quotedName :=
    @Run.run_eq_restrict sources ⟨severity, names⟩ ⟨severity, more⟩ h rfl paths
  refine {
    quotes := ?_
    violations_eq := congrArg Result.violations hrun
    suppressed_eq := congrArg Result.suppressed hrun
    scanned_eq := (congrArg Result.scanned hrun).trans rfl
    skipped_eq := (congrArg Result.skipped hrun).trans rfl
    exitCode_le := ?_
    sameNames := fun others hothers => Run.run_congr rfl hothers
    sameOptions := fun loaded added option hseverity hnames => Run.run_congr hseverity hnames
    otherSeverity := ?_ }
  · intro found hfound
    rcases List.mem_append.mp hfound with hactive | hsuppressed
    · exact Run.message_of_mem_violations hactive
    · obtain ⟨entry, hentry, rfl⟩ := List.mem_map.mp hsuppressed
      exact Run.message_of_mem_suppressed hentry
  · intro strict
    apply Result.toNat_exitCode_mono
    rw [hrun]
    exact List.filter_subset_self _
  · intro other
    apply Run.run_eq_withSeverity
    exact fun _ => Iff.rfl

namespace Scan

/-- The identifier that is called in the body of `bareCall`. -/
def calledName : Node := ⟨"simple_identifier", 14, 15, none, []⟩

theorem text_calledName : calledName.text bareCall.source = "f" := by
  decide +kernel

/-- It is reported when its name is among those that are added. -/
theorem isFinding_bareCall {config : RuleConfig} (h : "f" ∈ config.additionalModifiers) :
    ∃ trail, IsFinding bareCall config [0, 3, 1, 0] trail calledName := by
  have htokens : (TokenStream.ofNode bareCall.source bareCall.root).tokens.toList =
      [⟨"v", 0, 1⟩, ⟨":some View", 1, 11⟩, ⟨"\x7b", 11, 12⟩, ⟨"g", 12, 13⟩] ++
        [⟨"f", 14, 15⟩, ⟨"(", 15, 16⟩, ⟨")", 16, 17⟩, ⟨"\x7d", 17, 18⟩] := by
    rw [TokenStream.toList_ofNode]
    decide +kernel
  have hopened : (TokenStream.ofNode bareCall.source bareCall.root).tokens.toList =
      [⟨"v", 0, 1⟩, ⟨":some View", 1, 11⟩, ⟨"\x7b", 11, 12⟩, ⟨"g", 12, 13⟩, ⟨"f", 14, 15⟩] ++
        [⟨"(", 15, 16⟩, ⟨")", 16, 17⟩, ⟨"\x7d", 17, 18⟩] := htokens
  have hprevious : (TokenStream.ofNode bareCall.source bareCall.root).previous? calledName =
      some ⟨"g", 12, 13⟩ := TokenStream.previous?_eq htokens (by decide) (by decide)
  have hnext : (TokenStream.ofNode bareCall.source bareCall.root).next? calledName =
      some ⟨"(", 15, 16⟩ := TokenStream.next?_eq hopened (by decide) (by decide)
  have hvisible : ∀ {parent child : Node} {i : Nat}, parent.children[i]? = some child →
      Scope.hides parent child = false → child ∈ Scope.visibleChildren parent :=
    fun hchild hhides => (mem_visibleChildren hchild).mpr hhides
  have htext := text_calledName
  refine ⟨_, {
    trail_eq := rfl
    getLast?_eq := rfl
    entered := by decide +kernel
    visible := .cons_cons (hvisible (i := 0) rfl (by decide)) <|
      .cons_cons (hvisible (i := 3) rfl (by decide)) <|
      .cons_cons (hvisible (i := 1) rfl (by decide)) <|
      .cons_cons (hvisible (i := 0) rfl (by decide)) <| .singleton _
    inChecked := scopeAt_false_iff.mp (by decide +kernel)
    kind_eq := rfl
    isReference := ⟨[0, 3, 1], 0, _, rfl, rfl, by decide, by decide⟩
    isModifier := Or.inr ⟨htext ▸ h, by rw [htext]; decide⟩
    notPrecluded := ?_
    isCall := ⟨_, hnext, by decide⟩ }⟩
  intro token htoken
  obtain rfl : ⟨"g", 12, 13⟩ = token := Option.some.inj (hprevious.symm.trans htoken)
  decide

/-- A scan for that name reports the call, whatever the path of the file. -/
theorem exists_mem_scan_bareCall {config : RuleConfig} (h : "f" ∈ config.additionalModifiers)
    (path : String) : ∃ found ∈ scan { bareCall with path } config, found.quotedName = "f" := by
  obtain ⟨trail, hfinding⟩ := isFinding_bareCall h
  have hmoved : IsFinding { bareCall with path } config _ trail calledName := { hfinding with }
  have hreported := mem_reported.mpr ⟨_, trail, hmoved⟩
  refine ⟨violation (Context.ofParsed { bareCall with path } config) calledName, ?_, ?_⟩
  · rw [scan_eq_map_reported]
    exact List.mem_map_of_mem hreported
  · rw [quotedName_violation]
    exact text_calledName

theorem suppressions_bareCall : bareCall.suppressions = [] := by
  decide +kernel

end Scan

/-- A run over a bare call and a file that is not there, for the name of the call and without it. -/
theorem namesOnlyAdd_run_bareCall :
    ["g"] ⊆ ["", "f", "g", "f"] ∧
      (∃ found ∈ (run Scan.bareCallSources ⟨.error, ["", "f", "g", "f"]⟩
        [.ofString "b", .ofString "a"]).violations, found.quotedName = "f") ∧
      Run.NamesOnlyAdd Scan.bareCallSources .error ["g"] ["", "f", "g", "f"]
        [.ofString "b", .ofString "a"] := by
  have hnames : ["g"] ⊆ ["", "f", "g", "f"] := by decide
  obtain ⟨found, hfound, hquoted⟩ :=
    @Scan.exists_mem_scan_bareCall ⟨.error, ["", "f", "g", "f"]⟩ (by decide) Scan.bareCall.path
  have hactive : found ∈ (check ⟨.error, ["", "f", "g", "f"]⟩ Scan.bareCall).violations := by
    rw [check, Scan.suppressions_bareCall, Result.filter, Suppression.active_eq]
    exact List.mem_filter.mpr ⟨hfound, rfl⟩
  have hpath : Path.ofString "a" ∈ [Path.ofString "b", .ofString "a"] := .tail _ (.head _)
  have hsource : Scan.bareCallSources (.ofString "a") = .ok Scan.bareCall := if_pos rfl
  have hrun := Run.mem_violations.mpr ⟨_, hpath, _, hsource, hactive⟩
  exact ⟨hnames, ⟨found, hrun, hquoted⟩, namesOnlyAdd_run _ _ hnames _⟩

end LeadingDot
