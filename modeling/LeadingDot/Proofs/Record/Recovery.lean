import LeadingDot.Proofs.Json.Recovery
import LeadingDot.Record.Settings

/-!
# Recovery of findings and settings

Every record of findings or settings is recovered from its JSON value. The shape of a
record names its fields; what stands under other keys does not matter. The proof for a
record takes off its fields one by one, the last one first, each by the recovery of its
own type.
-/

namespace LeadingDot

open Json (Fields Recovers Shape)

theorem Severity.recovers : Recovers toJson ofJson .leaf := by
  refine Recovers.of_leaf fun severity => ?_
  cases severity <;> rfl

theorem Rule.recovers : Recovers toJson ofJson .leaf := by
  refine Recovers.of_leaf fun rule => ?_
  cases rule
  rfl

theorem Coverage.recovers : Recovers toJson ofJson .leaf := by
  refine Recovers.of_leaf fun coverage => ?_
  cases coverage <;> rfl

/-- The fields of a violation. -/
def Violation.shape : Shape :=
  .record
    [("rule", .leaf), ("message", .leaf), ("file", .leaf), ("line", .leaf), ("column", .leaf),
     ("offset", .leaf), ("severity", .leaf)]

theorem Violation.recovers : Recovers toJson ofJson shape := by
  refine Fields.recovers fun violation => ?_
  cases violation
  refine Fields.Reads.written ?_ Severity.recovers rfl rfl
  refine Fields.Reads.written ?_ Recovers.nat rfl rfl
  refine Fields.Reads.written ?_ Recovers.nat rfl rfl
  refine Fields.Reads.written ?_ Recovers.nat rfl rfl
  refine Fields.Reads.written ?_ Recovers.text rfl rfl
  refine Fields.Reads.written ?_ Recovers.text rfl rfl
  refine Fields.Reads.written ?_ Rule.recovers rfl rfl
  exact Fields.Reads.done Violation.mk

/-- The fields of a suppression. -/
def Suppression.shape : Shape :=
  .record
    [("rule", .leaf), ("reason", .leaf), ("file", .leaf), ("line", .leaf),
     ("suppression_type", .leaf)]

theorem Suppression.recovers : Recovers toJson ofJson shape := by
  refine Fields.recovers fun suppression => ?_
  cases suppression
  refine Fields.Reads.written ?_ Coverage.recovers rfl rfl
  refine Fields.Reads.written ?_ Recovers.nat rfl rfl
  refine Fields.Reads.written ?_ Recovers.text rfl rfl
  refine Fields.Reads.written ?_ Recovers.text rfl rfl
  refine Fields.Reads.written ?_ Recovers.text rfl rfl
  exact Fields.Reads.done Suppression.mk

/-- The fields of a suppressed violation. -/
def Suppressed.shape : Shape :=
  .record [("violation", Violation.shape), ("suppression", Suppression.shape)]

theorem Suppressed.recovers : Recovers toJson ofJson shape := by
  refine Fields.recovers fun suppressed => ?_
  cases suppressed
  refine Fields.Reads.written ?_ Suppression.recovers rfl rfl
  refine Fields.Reads.written ?_ Violation.recovers rfl rfl
  exact Fields.Reads.done Suppressed.mk

/-- The fields of a result. -/
def Result.shape : Shape :=
  .record
    [("violations", .list Violation.shape), ("suppressed", .list Suppressed.shape),
     ("scanned", .leaf), ("skipped", .list .leaf)]

theorem Result.recovers : Recovers toJson ofJson shape := by
  refine Fields.recovers fun result => ?_
  cases result
  refine Fields.Reads.written ?_ Recovers.texts rfl rfl
  refine Fields.Reads.written ?_ Recovers.nat rfl rfl
  refine Fields.Reads.written ?_ (Recovers.list Suppressed.recovers) rfl rfl
  refine Fields.Reads.written ?_ (Recovers.list Violation.recovers) rfl rfl
  exact Fields.Reads.done Result.mk

/-- The fields of the settings of the rule. -/
def RuleConfig.shape : Shape :=
  .record [("severity", .leaf), ("additional_modifiers", .list .leaf)]

theorem RuleConfig.recovers : Recovers toJson ofJson shape := by
  refine Fields.recovers fun config => ?_
  cases config
  refine Fields.Reads.written ?_ Recovers.texts rfl rfl
  refine Fields.Reads.written ?_ Severity.recovers rfl rfl
  exact Fields.Reads.done RuleConfig.mk

/-- The fields of a configuration. -/
def Config.shape : Shape :=
  .record
    [("excluded", .list .leaf), ("include_test_files", .leaf),
     ("missing_dot_swiftui_modifier", RuleConfig.shape)]

theorem Config.recovers : Recovers toJson ofJson shape := by
  refine Fields.recovers fun config => ?_
  cases config
  refine Fields.Reads.written ?_ RuleConfig.recovers rfl rfl
  refine Fields.Reads.written ?_ (Recovers.bool.orNull nofun) rfl rfl
  refine Fields.Reads.written ?_ Recovers.texts rfl rfl
  exact Fields.Reads.done Config.mk

end LeadingDot
