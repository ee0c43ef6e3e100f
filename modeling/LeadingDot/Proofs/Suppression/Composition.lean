import LeadingDot.Proofs.Suppression.Directives

/-!
# Suppressions applied one after the other

Some suppressions and then others leave the violations that both together leave. What is
suppressed in the two stages is what is suppressed at once, in the order of the violations and
with the same suppressions, as the first suppression that covers a violation counts. Which
violations are suppressed depends on what suppressions there are, not on their order or number.
-/

namespace LeadingDot.Suppression

variable {suppressions others : List Suppression} {violations : List Violation}
  {violation : Violation} {suppression : Suppression}

/-- Suppressed violations of two stages, in the order in which the violations came: each
violation stays active or is suppressed in one of the stages. -/
inductive MergedAlong : (violations : List Violation) → (first second both : List Suppressed) →
    Prop where
  | nil : MergedAlong [] [] [] []
  | active {violations : List Violation} {first second both : List Suppressed}
      (violation : Violation) : MergedAlong violations first second both →
      MergedAlong (violation :: violations) first second both
  | first {violations : List Violation} {first second both : List Suppressed}
      (found : Suppressed) : MergedAlong violations first second both →
      MergedAlong (found.violation :: violations) (found :: first) second (found :: both)
  | second {violations : List Violation} {first second both : List Suppressed}
      (found : Suppressed) : MergedAlong violations first second both →
      MergedAlong (found.violation :: violations) first (found :: second) (found :: both)

/-- Whether a violation is suppressed by the first of some suppressions that covers it. -/
def IsFirstCover (suppressions : List Suppression) (found : Suppressed) : Prop :=
  ∃ before after, suppressions = before ++ found.suppression :: after ∧
    found.suppression.covers found.violation = true ∧
    ∀ suppression ∈ before, suppression.covers found.violation = false

theorem cover?_append (suppressions others : List Suppression) (violation : Violation) :
    cover? (suppressions ++ others) violation =
      (cover? suppressions violation).or (cover? others violation) :=
  List.find?_append

theorem active_cons_of_none (h : cover? suppressions violation = none) :
    active suppressions (violation :: violations) = violation :: active suppressions violations :=
  List.filter_cons_of_pos (by simp [h])

theorem active_cons_of_some (h : cover? suppressions violation = some suppression) :
    active suppressions (violation :: violations) = active suppressions violations :=
  List.filter_cons_of_neg (by simp [h])

theorem suppressed_cons_of_none (h : cover? suppressions violation = none) :
    suppressed suppressions (violation :: violations) = suppressed suppressions violations :=
  List.filterMap_cons_none (by rw [h]; rfl)

theorem suppressed_cons_of_some (h : cover? suppressions violation = some suppression) :
    suppressed suppressions (violation :: violations) =
      ⟨violation, suppression⟩ :: suppressed suppressions violations :=
  List.filterMap_cons_some (by rw [h]; rfl)

/-- What is active after both is active after the others among what is active after the first. -/
theorem active_append (suppressions others : List Suppression) (violations : List Violation) :
    active (suppressions ++ others) violations = active others (active suppressions violations) := by
  simp only [active, List.filter_filter, cover?_append, Option.isNone_or, Bool.and_comm]

/-- What both suppress is what the first suppress, and then the others, put together in the
order of the violations. -/
theorem mergedAlong_suppressed (suppressions others : List Suppression)
    (violations : List Violation) :
    MergedAlong violations (suppressed suppressions violations)
      (suppressed others (active suppressions violations))
      (suppressed (suppressions ++ others) violations) := by
  induction violations with
  | nil => exact .nil
  | cons violation violations ih =>
    cases hfirst : cover? suppressions violation with
    | some suppression =>
      have hboth : cover? (suppressions ++ others) violation = some suppression := by
        rw [cover?_append, hfirst]
        rfl
      rw [suppressed_cons_of_some hfirst, active_cons_of_some hfirst, suppressed_cons_of_some hboth]
      exact .first ⟨violation, suppression⟩ ih
    | none =>
      have hboth : cover? (suppressions ++ others) violation = cover? others violation := by
        rw [cover?_append, hfirst, Option.none_or]
      rw [suppressed_cons_of_none hfirst, active_cons_of_none hfirst]
      cases hsecond : cover? others violation with
      | some suppression =>
        rw [suppressed_cons_of_some hsecond, suppressed_cons_of_some (hboth.trans hsecond)]
        exact .second ⟨violation, suppression⟩ ih
      | none =>
        rw [suppressed_cons_of_none hsecond, suppressed_cons_of_none (hboth.trans hsecond)]
        exact .active violation ih

theorem isFirstCover_of_mem_suppressed {found : Suppressed}
    (h : found ∈ suppressed suppressions violations) : IsFirstCover suppressions found := by
  obtain ⟨violation, -, hfound⟩ := List.mem_filterMap.mp h
  obtain ⟨suppression, hcover, rfl⟩ := Option.map_eq_some_iff.mp hfound
  obtain ⟨hcovers, before, after, hsplit, hbefore⟩ := List.find?_eq_some_iff_append.mp hcover
  exact ⟨before, after, hsplit, hcovers, by simpa using hbefore⟩

/-- Whether a violation is suppressed depends on the suppressions there are. -/
theorem isSome_cover?_congr (h : ∀ suppression, suppression ∈ others ↔ suppression ∈ suppressions)
    (violation : Violation) :
    (cover? others violation).isSome = (cover? suppressions violation).isSome := by
  rw [Bool.eq_iff_iff, isSome_cover?_iff, isSome_cover?_iff]
  simp only [h]

/-- What is left active is not suppressed by the same suppressions again. -/
theorem suppressed_active (suppressions : List Suppression) (violations : List Violation) :
    suppressed suppressions (active suppressions violations) = [] := by
  rw [← List.map_eq_nil_iff, map_violation_suppressed, active_eq, List.filter_filter,
    List.filter_eq_nil_iff]
  intro violation _ hboth
  rw [Bool.and_eq_true, Bool.not_eq_true'] at hboth
  exact absurd (hboth.1.symm.trans hboth.2) (by decide)

theorem active_active (suppressions : List Suppression) (violations : List Violation) :
    active suppressions (active suppressions violations) = active suppressions violations := by
  simp only [active, List.filter_filter, Bool.and_self]

/-- How suppressions go along with others, and with themselves. -/
structure Composes (suppressions others : List Suppression) (violations : List Violation) :
    Prop where
  /-- Some and then others leave active what both together leave. -/
  active_append_eq : active (suppressions ++ others) violations =
    active others (active suppressions violations)
  /-- They suppress what both together suppress, in the order of the violations. -/
  merged : MergedAlong violations (suppressed suppressions violations)
    (suppressed others (active suppressions violations))
    (suppressed (suppressions ++ others) violations)
  /-- Those are the violations that one of them covers. -/
  suppressed_append_eq : (suppressed (suppressions ++ others) violations).map (·.violation) =
    violations.filter fun violation => (suppressions ++ others).any (·.covers violation)
  /-- Each is suppressed by the first that covers it. -/
  attributed : ∀ found ∈ suppressed (suppressions ++ others) violations,
    IsFirstCover (suppressions ++ others) found
  /-- A second time the same suppressions do nothing. -/
  active_again : active suppressions (active suppressions violations) =
    active suppressions violations
  suppressed_again : suppressed suppressions (active suppressions violations) = []
  /-- The order and the number of equal suppressions make no difference to what is active. -/
  active_congr : ∀ reordered : List Suppression,
    (∀ suppression, suppression ∈ reordered ↔ suppression ∈ suppressions) →
    active reordered violations = active suppressions violations
  /-- Nor do they to what is suppressed. -/
  suppressed_congr : ∀ reordered : List Suppression,
    (∀ suppression, suppression ∈ reordered ↔ suppression ∈ suppressions) →
    (suppressed reordered violations).map (·.violation) =
      (suppressed suppressions violations).map (·.violation)

/-- All suppressions compose. -/
theorem composes (suppressions others : List Suppression) (violations : List Violation) :
    Composes suppressions others violations where
  active_append_eq := active_append suppressions others violations
  merged := mergedAlong_suppressed suppressions others violations
  suppressed_append_eq := by
    rw [map_violation_suppressed]
    refine List.filter_congr fun violation _ => ?_
    rw [Bool.eq_iff_iff, isSome_cover?_iff, List.any_eq_true]
  attributed := fun _ => isFirstCover_of_mem_suppressed
  active_again := active_active suppressions violations
  suppressed_again := suppressed_active suppressions violations
  active_congr := by
    intro reordered h
    simp only [active_eq, isSome_cover?_congr h]
  suppressed_congr := by
    intro reordered h
    simp only [map_violation_suppressed, isSome_cover?_congr h]

end LeadingDot.Suppression
