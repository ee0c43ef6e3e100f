import LeadingDot.Result
import Mathlib.Data.List.Basic

/-!
# The verdict on a result

A result fails a run by its active violations alone: by any of them when warnings count too, and
otherwise by one that is an error. More violations never turn a failure into a success.
-/

namespace LeadingDot.Result

variable {result other : Result} {strict : Bool}

/-- A violation fails a run if it is an error, or if warnings count too. -/
def fails (strict : Bool) (found : Violation) : Bool :=
  strict || found.severity == .error

/-- A run fails if some active violation fails it. -/
theorem exitCode_eq (result : Result) (strict : Bool) :
    result.exitCode strict =
      if result.violations.any (fails strict) then .failed else .success := by
  have hfails : (if strict then !result.violations.isEmpty else result.hasErrors) =
      result.violations.any (fails strict) := by
    cases strict with
    | false => rfl
    | true =>
      cases result.violations with
      | nil => rfl
      | cons found rest => rfl
  rw [exitCode, hfails]

/-- The exit code is one if some active violation fails the run. -/
theorem toNat_exitCode_eq_one_iff : (result.exitCode strict).toNat = 1 ↔
    ∃ found ∈ result.violations, strict = true ∨ found.severity = .error := by
  have hany : result.violations.any (fails strict) = true ↔
      ∃ found ∈ result.violations, strict = true ∨ found.severity = .error := by
    simp only [List.any_eq_true, fails, Bool.or_eq_true, beq_iff_eq]
  rw [exitCode_eq, ← hany]
  cases result.violations.any (fails strict) with
  | false => decide
  | true => decide

/-- The exit code of a result is zero or one. -/
theorem toNat_exitCode_eq_zero_or_one (result : Result) (strict : Bool) :
    (result.exitCode strict).toNat = 0 ∨ (result.exitCode strict).toNat = 1 := by
  rw [exitCode_eq]
  cases result.violations.any (fails strict) with
  | false => exact Or.inl rfl
  | true => exact Or.inr rfl

/-- With more active violations the exit code is not less. -/
theorem toNat_exitCode_mono (h : result.violations ⊆ other.violations) (strict : Bool) :
    (result.exitCode strict).toNat ≤ (other.exitCode strict).toNat := by
  rcases toNat_exitCode_eq_zero_or_one result strict with hzero | hone
  · rw [hzero]
    exact Nat.zero_le _
  · obtain ⟨found, hfound, hfails⟩ := toNat_exitCode_eq_one_iff.mp hone
    have hother := toNat_exitCode_eq_one_iff.mpr ⟨found, h hfound, hfails⟩
    omega

/-- Every violation is an error or a warning. -/
theorem count_error_add_count_warning (result : Result) :
    result.count .error + result.count .warning = result.violations.length := by
  have hwarning : ∀ found : Violation,
      (found.severity == .warning) = !(found.severity == .error) := by
    intro found
    cases found.severity <;> rfl
  have hsplit := List.length_eq_length_filter_add (l := result.violations)
    fun found => found.severity == .error
  simp only [count, hwarning]
  omega

end LeadingDot.Result
