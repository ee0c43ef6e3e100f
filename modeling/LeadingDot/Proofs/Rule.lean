import LeadingDot.Rule
import Mathlib.Logic.Function.Basic

/-!
# Rules and their identifiers

A rule is known by its identifier: whatever names the rule that way, a directive or a report,
names no other one.
-/

namespace LeadingDot.Rule

/-- An identifier is read as the rule that has it. -/
theorem parse?_eq_some_iff {identifier : String} {rule : Rule} :
    parse? identifier = some rule ↔ identifier = rule.identifier := by
  cases rule
  constructor
  · intro h
    unfold parse? at h
    have hidentifier := List.find?_some h
    exact (beq_iff_eq.mp hidentifier).symm
  · rintro rfl
    rfl

theorem identifier_injective : Function.Injective identifier := by
  intro a b h
  have ha : parse? a.identifier = some a := parse?_eq_some_iff.mpr rfl
  have hb : parse? a.identifier = some b := parse?_eq_some_iff.mpr h
  exact Option.some.inj (ha.symm.trans hb)

theorem mem_all (rule : Rule) : rule ∈ all :=
  List.mem_of_find?_eq_some (parse?_eq_some_iff.mpr rfl)

theorem nodup_all : all.Nodup := by decide

end LeadingDot.Rule
