import LeadingDot.Proofs.Sorting
import LeadingDot.Result

/-!
# The order of results

Results are sorted by file and offset. The violations that tie in these are those at one place
of one file, so results that agree on the violations of each file are sorted alike.
-/

namespace LeadingDot

namespace Violation

variable {a b c : Violation}

theorem precedes_iff :
    a.precedes b = true ↔ a.file < b.file ∨ a.file = b.file ∧ a.offset ≤ b.offset := by
  simp [precedes]

theorem precedes_trans (a b c : Violation) (hab : a.precedes b = true)
    (hbc : b.precedes c = true) : a.precedes c = true := by
  rw [precedes_iff] at hab hbc ⊢
  rcases hab with hab | ⟨hab, hab'⟩ <;> rcases hbc with hbc | ⟨hbc, hbc'⟩
  · exact Or.inl (hab.trans hbc)
  · exact Or.inl (hbc ▸ hab)
  · exact Or.inl (hab ▸ hbc)
  · exact Or.inr ⟨hab.trans hbc, hab'.trans hbc'⟩

theorem precedes_total (a b : Violation) : (a.precedes b || b.precedes a) = true := by
  rw [Bool.or_eq_true, precedes_iff, precedes_iff]
  rcases lt_trichotomy a.file b.file with h | h | h
  · exact Or.inl (Or.inl h)
  · rcases Nat.le_total a.offset b.offset with h' | h'
    · exact Or.inl (Or.inr ⟨h, h'⟩)
    · exact Or.inr (Or.inr ⟨h.symm, h'⟩)
  · exact Or.inr (Or.inl h)

/-- Violations that tie stand in the same file. -/
theorem file_eq_of_tied (h : tied precedes a b = true) : b.file = a.file := by
  obtain ⟨hab, hba⟩ := Bool.and_eq_true_iff.mp h
  rw [precedes_iff] at hab hba
  rcases hab with hab | ⟨hab, -⟩
  · rcases hba with hba | ⟨hba, -⟩
    · exact absurd (hab.trans hba) (lt_irrefl _)
    · exact hba
  · exact hab.symm

end Violation

namespace Suppressed

/-- Whether a suppressed violation may stand before another. -/
def precedes (a b : Suppressed) : Bool := a.violation.precedes b.violation

theorem precedes_trans (a b c : Suppressed) (hab : a.precedes b = true)
    (hbc : b.precedes c = true) : a.precedes c = true :=
  Violation.precedes_trans a.violation b.violation c.violation hab hbc

theorem precedes_total (a b : Suppressed) : (a.precedes b || b.precedes a) = true :=
  Violation.precedes_total a.violation b.violation

end Suppressed

namespace Result

/-- Names in different orders are sorted alike. -/
theorem mergeSort_names_eq {names others : List String} (h : names.Perm others) :
    (names.mergeSort fun a b => a ≤ b) = others.mergeSort fun a b => a ≤ b := by
  refine List.Perm.eq_of_pairwise (fun a b _ _ hab hba => hab.antisymm hba)
    (pairwise_mergeSort_name id names) (pairwise_mergeSort_name id others) ?_
  exact (List.mergeSort_perm ..).trans (h.trans (List.mergeSort_perm ..).symm)

/-- Results of as many files that agree on the violations of each tie, and that have skipped the
same files, are sorted alike. -/
theorem sort_congr {a b : Result}
    (hviolations : ∀ found, a.violations.filter (tied Violation.precedes found) =
      b.violations.filter (tied Violation.precedes found))
    (hsuppressed : ∀ found, a.suppressed.filter (tied Suppressed.precedes found) =
      b.suppressed.filter (tied Suppressed.precedes found))
    (hscanned : a.scanned = b.scanned) (hskipped : a.skipped.Perm b.skipped) :
    a.sort = b.sort := by
  have hactive :=
    (mergeSort_eq_iff Violation.precedes_trans Violation.precedes_total).mpr hviolations
  have hothers :=
    (mergeSort_eq_iff Suppressed.precedes_trans Suppressed.precedes_total).mpr hsuppressed
  rw [sort, sort, hactive, hscanned, mergeSort_names_eq hskipped]
  congr 1

/-- It makes no difference if results are sorted before they are merged. -/
theorem sort_merge_sort (a b : Result) : (a.sort.merge b.sort).sort = (a.merge b).sort := by
  refine sort_congr (fun found => ?_) (fun found => ?_) rfl ?_
  · simp only [merge, sort, List.filter_append,
      filter_tied_mergeSort Violation.precedes_trans Violation.precedes_total]
  · simp only [merge, List.filter_append]
    exact congrArg₂ _ (filter_tied_mergeSort Suppressed.precedes_trans Suppressed.precedes_total ..)
      (filter_tied_mergeSort Suppressed.precedes_trans Suppressed.precedes_total ..)
  · exact (List.mergeSort_perm ..).append (List.mergeSort_perm ..)

end Result

end LeadingDot
