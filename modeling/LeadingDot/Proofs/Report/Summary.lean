import LeadingDot.Proofs.Json.Same
import LeadingDot.Proofs.Report.Recovery
import LeadingDot.Proofs.Rule

/-!
# What a JSON report tells of a run

A report holds all that is known of a run but the offsets of the violations: two runs have the
same report only if they agree in all else, also for who does not see in which order the members
of the JSON value stand. Names in a report are read back as the rules, severities and coverages
that they were written for, and nothing is left out, put in or moved.
-/

namespace LeadingDot

/-! ## Results but for their offsets -/

/-- A violation with its offset struck out. -/
def Violation.withoutOffset (violation : Violation) : Violation :=
  { violation with offset := 0 }

/-- A suppressed violation with its offset struck out. -/
def Suppressed.withoutOffset (suppressed : Suppressed) : Suppressed :=
  { suppressed with violation := suppressed.violation.withoutOffset }

/-- A result with all offsets struck out. -/
def Result.withoutOffsets (result : Result) : Result :=
  { result with
    violations := result.violations.map .withoutOffset
    suppressed := result.suppressed.map .withoutOffset }

theorem Severity.name_injective : Function.Injective name :=
  fun _ _ h => Severity.recovers.injective (congrArg Json.text h)

theorem Coverage.name_injective : Function.Injective name :=
  fun _ _ h => Coverage.recovers.injective (congrArg Json.text h)

theorem Severity.parse_name (severity : Severity) : parse severity.name = .ok severity := by
  cases severity <;> rfl

/-- Two functions that tell apart the same things tell apart the same lists. -/
theorem map_eq_map_iff_of_eq_iff {α β γ : Type} {f : α → β} {g : α → γ}
    (h : ∀ x y, f x = f y ↔ g x = g y) (xs ys : List α) :
    xs.map f = ys.map f ↔ xs.map g = ys.map g := by
  induction xs generalizing ys with
  | nil => cases ys <;> simp
  | cons x xs ih =>
    cases ys with
    | nil => simp
    | cons y ys => rw [List.map_cons, List.map_cons, List.map_cons, List.map_cons,
        List.cons.injEq, List.cons.injEq, h, ih]

namespace Report

variable {path path' : String} {config config' : Option String} {result result' : Result}

/-! ## What is told apart -/

theorem Finding.ofViolation_eq_iff (a b : Violation) :
    Finding.ofViolation a = .ofViolation b ↔ a.withoutOffset = b.withoutOffset := by
  constructor
  · intro h
    rw [Finding.ofViolation, Finding.ofViolation, Finding.mk.injEq] at h
    obtain ⟨hrule, hseverity, hfile, hline, hcolumn, hmessage⟩ := h
    have hrule : a.rule = b.rule := Rule.identifier_injective hrule
    have hseverity : a.severity = b.severity := Severity.name_injective hseverity
    rw [Violation.withoutOffset, Violation.withoutOffset, hrule, hseverity, hfile, hline, hcolumn,
      hmessage]
  · exact congrArg Finding.ofViolation

theorem Dismissal.ofSuppression_injective : Function.Injective Dismissal.ofSuppression := by
  intro a b h
  rw [Dismissal.ofSuppression, Dismissal.ofSuppression, Dismissal.mk.injEq] at h
  obtain ⟨hrule, hreason, hfile, hline, hcoverage⟩ := h
  have hcoverage : a.coverage = b.coverage := Coverage.name_injective hcoverage
  cases a
  cases b
  simp_all

theorem DismissedFinding.ofSuppressed_eq_iff (a b : Suppressed) :
    DismissedFinding.ofSuppressed a = .ofSuppressed b ↔ a.withoutOffset = b.withoutOffset := by
  rw [ofSuppressed, ofSuppressed, DismissedFinding.mk.injEq, Finding.ofViolation_eq_iff,
    Dismissal.ofSuppression_injective.eq_iff, Suppressed.withoutOffset, Suppressed.withoutOffset,
    Suppressed.mk.injEq]

/-- The number of suppressed violations says nothing that their list does not say. -/
theorem Summary.ofResult_eq_iff :
    Summary.ofResult path config result = .ofResult path' config' result' ↔
      path = path' ∧ config = config' ∧ result.withoutOffsets = result'.withoutOffsets := by
  rw [Result.withoutOffsets, Result.withoutOffsets, Result.mk.injEq,
    ← map_eq_map_iff_of_eq_iff Finding.ofViolation_eq_iff,
    ← map_eq_map_iff_of_eq_iff DismissedFinding.ofSuppressed_eq_iff, Summary.ofResult,
    Summary.ofResult, Summary.mk.injEq]
  constructor
  · rintro ⟨-, hpath, hconfig, hscanned, hviolations, hsuppressed, -, hskipped⟩
    exact ⟨hpath, hconfig, hviolations, hsuppressed, hscanned, hskipped⟩
  · rintro ⟨hpath, hconfig, hviolations, hsuppressed, hscanned, hskipped⟩
    have hcount : result.suppressed.length = result'.suppressed.length := by
      simpa using congrArg List.length hsuppressed
    exact ⟨rfl, hpath, hconfig, hscanned, hviolations, hsuppressed, hcount, hskipped⟩

/-! ### JSON values -/

theorem Finding.tellsApart : Json.TellsApart toJson := by
  intro a b h
  have hrule : a.rule = b.rule := Json.TellsApart.text.field h "rule" rfl rfl
  have hseverity : a.severity = b.severity := Json.TellsApart.text.field h "severity" rfl rfl
  have hfile : a.file = b.file := Json.TellsApart.text.field h "file" rfl rfl
  have hline : a.line = b.line := Json.TellsApart.nat.field h "line" rfl rfl
  have hcolumn : a.column = b.column := Json.TellsApart.nat.field h "column" rfl rfl
  have hmessage : a.message = b.message := Json.TellsApart.text.field h "message" rfl rfl
  cases a
  cases b
  simp_all

/-- A reason is left out only if it is empty. -/
theorem Dismissal.tellsApart : Json.TellsApart toJson := by
  intro a b h
  have hempty : ∀ reason : String, reason.isEmpty = true → reason = "" :=
    fun _ => String.isEmpty_iff.mp
  have hrule : a.rule = b.rule := Json.TellsApart.text.field h "rule" rfl rfl
  have hreason : a.reason = b.reason :=
    Json.TellsApart.text.fieldUnless hempty h "reason" (by simp) (by simp)
  have hfile : a.file = b.file := Json.TellsApart.text.field h "file" (by simp) (by simp)
  have hline : a.line = b.line := Json.TellsApart.nat.field h "line" (by simp) (by simp)
  have hcoverage : a.coverage = b.coverage :=
    Json.TellsApart.text.field h "type" (by simp) (by simp)
  cases a
  cases b
  simp_all

theorem DismissedFinding.tellsApart : Json.TellsApart toJson := by
  intro a b h
  have hviolation : a.violation = b.violation := Finding.tellsApart.field h "violation" rfl rfl
  have hsuppression : a.suppression = b.suppression :=
    Dismissal.tellsApart.field h "suppression" rfl rfl
  cases a
  cases b
  simp_all

/-- A configuration is left out only if there is none, and lists only if they are empty. -/
theorem Summary.tellsApart : Json.TellsApart toJson := by
  intro a b h
  have hversion : a.version = b.version := Json.TellsApart.text.field h "version" rfl rfl
  have hpath : a.path = b.path := Json.TellsApart.text.field h "path" rfl rfl
  have hconfig : a.config = b.config :=
    Json.TellsApart.text.fieldOption h "config" (by simp) (by simp)
  have hscanned : a.filesScanned = b.filesScanned :=
    Json.TellsApart.nat.field h "files_scanned" (by simp) (by simp)
  have hviolations : a.violations = b.violations :=
    (Json.TellsApart.list Finding.tellsApart).field h "violations" (by simp) (by simp)
  have hsuppressed : a.suppressed = b.suppressed :=
    (Json.TellsApart.list DismissedFinding.tellsApart).fieldUnless
      (fun _ => List.isEmpty_iff.mp) h "suppressed" (by simp) (by simp)
  have hcount : a.suppressedCount = b.suppressedCount :=
    Json.TellsApart.nat.field h "suppressed_count" (by simp) (by simp)
  have hskipped : a.skipped = b.skipped :=
    Json.TellsApart.texts.fieldUnless (fun _ => List.isEmpty_iff.mp) h "skipped" (by simp) (by simp)
  cases a
  cases b
  simp_all

/-! ## What is told -/

/-- An entry tells of a violation all but its offset: its rule and its severity by names that
are read back as them, and the rest as it is. -/
structure Finding.Tells (violation : Violation) (finding : Finding) : Prop where
  rule : Rule.parse? finding.rule = some violation.rule
  severity : Severity.parse finding.severity = .ok violation.severity
  file : finding.file = violation.file
  line : finding.line = violation.line
  column : finding.column = violation.column
  message : finding.message = violation.message

theorem Finding.tells_ofViolation (violation : Violation) :
    Finding.Tells violation (.ofViolation violation) where
  rule := Rule.parse?_eq_some_iff.mpr rfl
  severity := violation.severity.parse_name
  file := rfl
  line := rfl
  column := rfl
  message := rfl

/-- An entry tells all of a suppression: its coverage by a name that is read back as in the
record of a suppression, and the rest as it is. -/
structure Dismissal.Tells (suppression : Suppression) (dismissal : Dismissal) : Prop where
  rule : dismissal.rule = suppression.rule
  reason : dismissal.reason = suppression.reason
  file : dismissal.file = suppression.file
  line : dismissal.line = suppression.line
  coverage : Coverage.ofJson (.text dismissal.coverage) = .ok suppression.coverage

theorem Dismissal.tells_ofSuppression (suppression : Suppression) :
    Dismissal.Tells suppression (.ofSuppression suppression) where
  rule := rfl
  reason := rfl
  file := rfl
  line := rfl
  coverage := Coverage.recovers.read_write suppression.coverage

/-- An entry tells of a suppressed violation and of its suppression. -/
structure DismissedFinding.Tells (suppressed : Suppressed) (dismissed : DismissedFinding) :
    Prop where
  violation : Finding.Tells suppressed.violation dismissed.violation
  suppression : Dismissal.Tells suppressed.suppression dismissed.suppression

/-- A report tells of a run: its entries tell of the violations and the suppressed violations
one by one, in their order, and the rest is as it is. -/
structure Summary.Tells (path : String) (config : Option String) (result : Result)
    (summary : Summary) : Prop where
  path : summary.path = path
  config : summary.config = config
  filesScanned : summary.filesScanned = result.scanned
  violations : List.Forall₂ Finding.Tells result.violations summary.violations
  suppressed : List.Forall₂ DismissedFinding.Tells result.suppressed summary.suppressed
  suppressedCount : summary.suppressedCount = result.suppressed.length
  skipped : summary.skipped = result.skipped

theorem Summary.tells_ofResult (path : String) (config : Option String) (result : Result) :
    Summary.Tells path config result (.ofResult path config result) where
  path := rfl
  config := rfl
  filesScanned := rfl
  violations := by
    refine List.forall₂_map_right_iff.mpr (List.forall₂_same.mpr fun violation _ => ?_)
    exact Finding.tells_ofViolation violation
  suppressed := by
    refine List.forall₂_map_right_iff.mpr (List.forall₂_same.mpr fun suppressed _ => ?_)
    exact ⟨Finding.tells_ofViolation suppressed.violation,
      Dismissal.tells_ofSuppression suppressed.suppression⟩
  suppressedCount := rfl
  skipped := rfl

/-- The JSON value of the report of a run. -/
def written (path : String) (config : Option String) (result : Result) : Json :=
  (Summary.ofResult path config result).toJson

/-- Two runs agree in the path, in the configuration and in all of their results but the
offsets. -/
def Agree (path path' : String) (config config' : Option String) (result result' : Result) : Prop :=
  path = path' ∧ config = config' ∧ result.withoutOffsets = result'.withoutOffsets

/-- The report of a run is an image of the run. -/
structure Images (path : String) (config : Option String) (result : Result) : Prop where
  /-- Two runs have equal JSON values just when they agree. -/
  written_eq_iff : ∀ path' config' result',
    written path config result = written path' config' result' ↔
      Agree path path' config config' result result'
  /-- They have the same JSON value, whatever the order of members, just when they agree. -/
  same_written_iff : ∀ path' config' result',
    Json.Same (written path config result) (written path' config' result') ↔
      Agree path path' config config' result result'
  /-- The report tells of the run. -/
  tells : Summary.Tells path config result (.ofResult path config result)
  /-- It is read back from its JSON value. -/
  read_written : Summary.ofJson (written path config result) = .ok (.ofResult path config result)

theorem same_written_iff : Json.Same (written path config result) (written path' config' result') ↔
    Agree path path' config config' result result' := by
  rw [Agree, ← Summary.ofResult_eq_iff]
  constructor
  · exact Summary.tellsApart _ _
  · intro h
    rw [written, written, h]
    exact .refl _

/-- Every report is an image of its run. -/
theorem images (path : String) (config : Option String) (result : Result) :
    Images path config result where
  written_eq_iff := by
    intro path' config' result'
    constructor
    · intro h
      exact same_written_iff.mp (h ▸ .refl _)
    · intro h
      rw [written, written, Summary.ofResult_eq_iff.mpr h]
  same_written_iff := fun _ _ _ => same_written_iff
  tells := Summary.tells_ofResult path config result
  read_written := Summary.recovers.read_write (.ofResult path config result)

end Report

end LeadingDot
