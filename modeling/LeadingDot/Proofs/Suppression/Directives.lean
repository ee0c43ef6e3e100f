import LeadingDot.Proofs.Rule
import LeadingDot.Suppression.Comment
import Mathlib.Data.List.Basic

/-!
# Directives and their lines

A directive is read from its line alone, from the number of the line and from whether all
lines up to it may stand in the header. The suppressions of a text are those of its lines
one after the other, and which violations a suppression covers can be told from its
coverage and from the line it stands on.
-/

namespace LeadingDot.Suppression

variable {file : String} {number : Nat} {inHeader : Bool} {line : List Char}
  {suppression : Suppression} {suppressions : List Suppression} {violation : Violation}

/-- Whether all lines may stand in the header of a file. -/
def allHeader (lines : List (List Char)) : Bool :=
  lines.all fun line => isHeaderLine (Text.trim line)

/-- A directive is recorded for its file and its line, or for no line if it covers the
file. -/
theorem place_of_ofMatch? {found : Text.Pattern.Match}
    (h : ofMatch? file number inHeader found = some suppression) :
    suppression.file = file ∧
      suppression.line = if suppression.coverage = .file then 0 else number := by
  unfold ofMatch? at h
  split at h
  · cases h
  · split at h
    · cases h
    · cases h
      exact ⟨rfl, rfl⟩

/-- The same holds of whichever comment the directive of a line is read from. -/
theorem place_of_ofLine? (h : ofLine? file number inHeader line = some suppression) :
    suppression.file = file ∧
      suppression.line = if suppression.coverage = .file then 0 else number := by
  obtain ⟨pattern, -, h⟩ := List.exists_of_findSome?_eq_some h
  obtain ⟨found, -, h⟩ := Option.bind_eq_some_iff.mp h
  exact place_of_ofMatch? h

/-- The lines after some others are read with their numbers and with what is known of the
header. -/
theorem ofLines_append (file : String) (number : Nat) (inHeader : Bool)
    (above below : List (List Char)) :
    ofLines file number inHeader (above ++ below) =
      ofLines file number inHeader above ++
        ofLines file (number + above.length) (inHeader && allHeader above) below := by
  induction above generalizing number inHeader with
  | nil => simp [ofLines, allHeader]
  | cons line above ih =>
    rw [List.cons_append, ofLines, ih, ofLines, List.append_assoc]
    simp [allHeader, Bool.and_assoc, Nat.add_comm, Nat.add_left_comm]

/-- The suppressions of a text are those of its lines. -/
theorem mem_ofLines {lines : List (List Char)} :
    suppression ∈ ofLines file number inHeader lines ↔
      ∃ above line below, lines = above ++ line :: below ∧
        ofLine? file (number + above.length) (inHeader && allHeader (above ++ [line])) line =
          some suppression := by
  constructor
  · intro h
    induction lines generalizing number inHeader with
    | nil => cases h
    | cons line lines ih =>
      rcases List.mem_append.mp h with h | h
      · exact ⟨[], line, lines, rfl, by simpa [allHeader] using h⟩
      · obtain ⟨above, line', below, rfl, hfound⟩ := ih h
        refine ⟨line :: above, line', below, rfl, ?_⟩
        rw [← hfound]
        simp [allHeader, Bool.and_assoc, Nat.add_comm, Nat.add_left_comm]
  · rintro ⟨above, line, below, rfl, h⟩
    rw [ofLines_append, ofLines]
    refine List.mem_append_right _ (List.mem_append_left _ ?_)
    simpa [allHeader, Bool.and_assoc] using h

/-- A suppression concerns the rule that it names, or every rule. -/
theorem concerns_iff {rule : Rule} :
    suppression.concerns rule = true ↔
      suppression.rule = "*" ∨ suppression.rule = rule.identifier := by
  simp [concerns, everyRule, Rule.parse?_eq_some_iff]

/-- Which violations a directive covers, by the number of its line. -/
theorem covers_iff_of_ofLine? (h : ofLine? file number inHeader line = some suppression) :
    suppression.covers violation = true ↔ violation.file = file ∧
      (suppression.rule = "*" ∨ suppression.rule = violation.rule.identifier) ∧
      (suppression.coverage = .file ∨
        suppression.coverage = .line ∧ violation.line = number ∨
        suppression.coverage = .nextLine ∧ violation.line = number + 1) := by
  obtain ⟨hfile, hline⟩ := place_of_ofLine? h
  rw [covers, Bool.and_eq_true, Bool.and_eq_true, beq_iff_eq, hfile, concerns_iff, and_assoc,
    coversLine]
  cases hcoverage : suppression.coverage <;> simp [hline, hcoverage]

theorem isSome_cover?_iff :
    (cover? suppressions violation).isSome = true ↔
      ∃ suppression ∈ suppressions, suppression.covers violation = true := by
  rw [cover?, List.find?_isSome]

/-- The active violations are those that no suppression covers. -/
theorem active_eq (suppressions : List Suppression) (violations : List Violation) :
    active suppressions violations =
      violations.filter fun violation => !(cover? suppressions violation).isSome := by
  simp [active]

theorem mem_active_iff {violations : List Violation} :
    violation ∈ active suppressions violations ↔ violation ∈ violations ∧
      ∀ suppression ∈ suppressions, suppression.covers violation = false := by
  have hnone : cover? suppressions violation = none ↔
      ∀ suppression ∈ suppressions, suppression.covers violation = false := by
    rw [cover?, List.find?_eq_none]
    simp only [Bool.not_eq_true]
  rw [active, List.mem_filter, Option.isNone_iff_eq_none, hnone]

/-- The suppressed violations are those that the active ones leave out. -/
theorem map_violation_suppressed (suppressions : List Suppression)
    (violations : List Violation) :
    (suppressed suppressions violations).map (·.violation) =
      violations.filter fun violation => (cover? suppressions violation).isSome := by
  induction violations with
  | nil => rfl
  | cons violation violations ih =>
    rw [suppressed] at ih ⊢
    cases hcover : cover? suppressions violation <;> simp [hcover, ih]

end LeadingDot.Suppression
