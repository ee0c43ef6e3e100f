import LeadingDot.Proofs.Report.RelativePath
import LeadingDot.Proofs.Rule
import Mathlib.Data.List.Forall2
import Mathlib.Data.List.Nodup

/-!
# What a log says of a run

A log holds one run, with a result for each active violation and in their order. The rules of the
run are put together apart from its results, but they are just the rules that the results refer
to, each once. Lines and columns are numbers that count from one, whatever numbers the violations
have. Nothing else of a run's result is in the log.
-/

namespace LeadingDot.Sarif

variable {base : Path} {id : String} {violations : List Violation} {rule : Rule}

/-- A rule belongs to a run if some violation breaks it. -/
theorem mem_rulesOf :
    rule ∈ rulesOf violations ↔ ∃ violation ∈ violations, violation.rule = rule := by
  rw [rulesOf, List.mem_filter, List.any_eq_true]
  simp only [beq_iff_eq]
  exact and_iff_right (Rule.mem_all rule)

theorem nodup_rulesOf (violations : List Violation) : (rulesOf violations).Nodup :=
  Rule.nodup_all.filter _

theorem id_ofRule (rule : Rule) : (ReportingDescriptor.ofRule rule).id = rule.identifier := by
  cases rule
  rfl

theorem map_id_ofRule (rules : List Rule) :
    (rules.map ReportingDescriptor.ofRule).map (·.id) = rules.map Rule.identifier := by
  rw [List.map_map]
  exact List.map_congr_left fun rule _ => id_ofRule rule

/-- The rules of a run have the identifiers that its results refer to. -/
theorem mem_identifiers_rulesOf : id ∈ (rulesOf violations).map Rule.identifier ↔
    id ∈ (violations.map (Finding.ofViolation base)).map (·.ruleId) := by
  rw [List.map_map, List.mem_map, List.mem_map]
  constructor
  · rintro ⟨rule, hrule, hid⟩
    obtain ⟨violation, hviolation, rfl⟩ := mem_rulesOf.mp hrule
    exact ⟨violation, hviolation, hid⟩
  · rintro ⟨violation, hviolation, hid⟩
    exact ⟨violation.rule, mem_rulesOf.mpr ⟨violation, hviolation, rfl⟩, hid⟩

/-- A finding says of a violation which rule it breaks, how grave it is and what is wrong, and
gives one place: the address of its file, and a line and a column that are not zero. -/
structure Finding.Shows (base : Path) (violation : Violation) (finding : Finding) : Prop where
  ruleId : finding.ruleId = violation.rule.identifier
  level : violation.severity = .error ∧ finding.level = "error" ∨
    violation.severity = .warning ∧ finding.level = "warning"
  message : finding.message.text = violation.message
  place : ∃ location, finding.locations = [⟨location⟩] ∧
    location.artifactLocation.uri = relativePath violation.file base ∧
    location.region.startLine = max violation.line 1 ∧
    location.region.startColumn = max violation.column 1

theorem Finding.shows_ofViolation (base : Path) (violation : Violation) :
    Finding.Shows base violation (.ofViolation base violation) where
  ruleId := rfl
  level := by
    rw [Finding.ofViolation]
    cases violation.severity with
    | error => exact Or.inl ⟨rfl, rfl⟩
    | warning => exact Or.inr ⟨rfl, rfl⟩
  message := rfl
  place := ⟨_, rfl, rfl, rfl, rfl⟩

/-- A run says all of some violations, and is in order itself. -/
structure Run.Covers (base : Path) (violations : List Violation) (run : Run) : Prop where
  /-- Its results show the violations one by one, in their order. -/
  results : List.Forall₂ (Finding.Shows base) violations run.results
  /-- No rule stands twice in it. -/
  rules_nodup : (run.tool.driver.rules.map (·.id)).Nodup
  /-- Its rules are those that its results refer to. -/
  mem_rules_iff : ∀ id, id ∈ run.tool.driver.rules.map (·.id) ↔ id ∈ run.results.map (·.ruleId)
  /-- Without violations it has no rules. -/
  rules_nil : violations = [] → run.tool.driver.rules = []

/-- What the log of a result holds. -/
structure LogsViolations (base : Path) (result : Result) : Prop where
  /-- One run that covers the active violations. -/
  covers : ∃ run, (Log.ofResult base result).runs = [run] ∧ run.Covers base result.violations
  /-- Nothing but the active violations. -/
  alone : ∀ other : Result, other.violations = result.violations →
    Log.ofResult base other = Log.ofResult base result

/-- Every log holds the active violations of its result. -/
theorem logsViolations (base : Path) (result : Result) : LogsViolations base result where
  covers := by
    refine ⟨_, rfl, ?_, ?_, ?_, ?_⟩
    · refine List.forall₂_map_right_iff.mpr (List.forall₂_same.mpr fun violation _ => ?_)
      exact Finding.shows_ofViolation base violation
    · rw [map_id_ofRule]
      exact (nodup_rulesOf result.violations).map Rule.identifier_injective
    · intro id
      rw [map_id_ofRule]
      exact mem_identifiers_rulesOf
    · intro hnone
      rw [hnone]
      rfl
  alone := by
    intro other hsame
    rw [Log.ofResult, Log.ofResult, hsame]

end LeadingDot.Sarif
