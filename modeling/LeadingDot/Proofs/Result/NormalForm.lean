import LeadingDot.Proofs.Result.Order
import LeadingDot.Proofs.Text.ByteOrder

/-!
# Sorted results

Sorting gives a result a form that does not depend on when it is done. Whatever is merged into a
result and whatever suppressions are applied to it, it makes no difference if the parts have been
sorted before, as long as the whole is sorted in the end. This holds of the results as they are,
not only of what they contain: violations at one place of one file keep their order.
-/

namespace LeadingDot

namespace Violation

variable {a b : Violation}

/-- Whether a violation stands at an offset of a file. -/
def isAt (file : String) (offset : Nat) (found : Violation) : Bool :=
  found.file == file && found.offset == offset

theorem precedes_of_isAt {file : String} {offset : Nat} (ha : a.isAt file offset = true)
    (hb : b.isAt file offset = true) : a.precedes b = true := by
  simp only [isAt, Bool.and_eq_true, beq_iff_eq] at ha hb
  exact precedes_iff.mpr (Or.inr ⟨ha.1.trans hb.1.symm, (ha.2.trans hb.2.symm).le⟩)

/-- Whether a violation stands in a file with lesser bytes, or in the same file and not further
down. -/
def PlacedLE (a b : Violation) : Prop :=
  a.file.toUTF8.data.toList < b.file.toUTF8.data.toList ∨ a.file = b.file ∧ a.offset ≤ b.offset

theorem precedes_iff_placedLE : a.precedes b = true ↔ a.PlacedLE b := by
  rw [precedes_iff, PlacedLE, Text.Utf8.lt_iff_toUTF8_lt]

end Violation

namespace Suppression

/-- The violations of a tie are suppressed as they are among all others. -/
theorem filter_tied_suppressed (suppressions : List Suppression) (found : Suppressed)
    (violations : List Violation) :
    (suppressed suppressions violations).filter (tied Suppressed.precedes found) =
      suppressed suppressions (violations.filter (tied Violation.precedes found.violation)) := by
  induction violations with
  | nil => rfl
  | cons violation violations ih =>
    rw [suppressed] at ih ⊢
    have htied : ∀ suppression, tied Suppressed.precedes found ⟨violation, suppression⟩ =
        tied Violation.precedes found.violation violation := fun _ => rfl
    cases hcover : cover? suppressions violation <;>
      cases hplace : tied Violation.precedes found.violation violation <;>
        simp [hcover, htied, hplace, ih, suppressed]

end Suppression

namespace Result

variable {result : Result}

/-- What is sorted is ordered by the bytes of the file names and by the offsets. -/
theorem pairwise_mergeSort_placedLE {α : Type} (violation : α → Violation) (xs : List α) :
    (xs.mergeSort fun a b => (violation a).precedes (violation b)).Pairwise
      fun a b => (violation a).PlacedLE (violation b) := by
  have hordered := @List.pairwise_mergeSort α (fun a b => (violation a).precedes (violation b))
    (fun a b c => Violation.precedes_trans (violation a) (violation b) (violation c))
    (fun a b => Violation.precedes_total (violation a) (violation b)) xs
  exact hordered.imp Violation.precedes_iff_placedLE.mp

/-- What stands at one place stays in the order in which it came. -/
theorem filter_isAt_mergeSort {α : Type} (violation : α → Violation) (file : String)
    (offset : Nat) (xs : List α) :
    (xs.mergeSort fun a b => (violation a).precedes (violation b)).filter
        (fun a => (violation a).isAt file offset) =
      xs.filter fun a => (violation a).isAt file offset :=
  filter_mergeSort_of_le
    (fun a b c => Violation.precedes_trans (violation a) (violation b) (violation c))
    (fun a b => Violation.precedes_total (violation a) (violation b))
    (fun _ _ ha hb => Violation.precedes_of_isAt ha hb) xs

/-- Sorted names are ordered by their bytes. -/
theorem pairwise_skipped_sort (result : Result) :
    result.sort.skipped.Pairwise fun a b => a.toUTF8.data.toList ≤ b.toUTF8.data.toList := by
  refine (pairwise_mergeSort_name id result.skipped).imp fun {a b} hle hlt => ?_
  exact absurd ((Text.Utf8.lt_iff_toUTF8_lt b a).mpr hlt) (not_lt.mpr hle)

/-- A sorted result is not changed by sorting. -/
theorem sort_sort (result : Result) : result.sort.sort = result.sort :=
  sort_congr (filter_tied_mergeSort Violation.precedes_trans Violation.precedes_total · _)
    (filter_tied_mergeSort Suppressed.precedes_trans Suppressed.precedes_total · _) rfl
    (List.mergeSort_perm ..)

/-- Suppressions may be applied before or after sorting, if the result is sorted in the end. -/
theorem sort_filter_sort (result : Result) (suppressions : List Suppression) :
    (result.sort.filter suppressions).sort = (result.filter suppressions).sort := by
  refine sort_congr (fun found => ?_) (fun found => ?_) rfl (List.mergeSort_perm ..)
  · have hactive : (result.sort.filter suppressions).violations =
        (result.filter suppressions).violations.mergeSort Violation.precedes :=
      filter_mergeSort Violation.precedes_trans Violation.precedes_total _ result.violations
    rw [hactive, filter_tied_mergeSort Violation.precedes_trans Violation.precedes_total]
  · have hbefore : result.sort.suppressed.filter (tied Suppressed.precedes found) =
        result.suppressed.filter (tied Suppressed.precedes found) :=
      filter_tied_mergeSort Suppressed.precedes_trans Suppressed.precedes_total ..
    have hviolations : result.sort.violations.filter (tied Violation.precedes found.violation) =
        result.violations.filter (tied Violation.precedes found.violation) :=
      filter_tied_mergeSort Violation.precedes_trans Violation.precedes_total ..
    simp only [filter, List.filter_append, Suppression.filter_tied_suppressed, hbefore,
      hviolations]

theorem merge_assoc (a b c : Result) : (a.merge b).merge c = a.merge (b.merge c) := by
  simp [merge, Nat.add_assoc]

@[simp] theorem empty_merge (result : Result) : empty.merge result = result := by
  simp [merge, empty]

@[simp] theorem merge_empty (result : Result) : result.merge empty = result := by
  simp [merge, empty]

/-- What sorting does to a result, and how it goes along with what else is done to it. -/
structure SortsToNormalForm (result : Result) : Prop where
  /-- Nothing is lost or doubled. -/
  violations_perm : result.sort.violations.Perm result.violations
  suppressed_perm : result.sort.suppressed.Perm result.suppressed
  skipped_perm : result.sort.skipped.Perm result.skipped
  scanned_eq : result.sort.scanned = result.scanned
  /-- Violations are ordered by the bytes of their files, then by their offsets. -/
  violations_ordered : result.sort.violations.Pairwise Violation.PlacedLE
  suppressed_ordered : result.sort.suppressed.Pairwise
    fun a b => a.violation.PlacedLE b.violation
  /-- Skipped files are ordered by their bytes. -/
  skipped_ordered : result.sort.skipped.Pairwise
    fun a b => a.toUTF8.data.toList ≤ b.toUTF8.data.toList
  /-- Violations at one offset of one file keep the order that they had. -/
  violations_stable : ∀ file offset, result.sort.violations.filter (·.isAt file offset) =
    result.violations.filter (·.isAt file offset)
  suppressed_stable : ∀ file offset,
    result.sort.suppressed.filter (·.violation.isAt file offset) =
      result.suppressed.filter (·.violation.isAt file offset)
  sort_sort_eq : result.sort.sort = result.sort
  /-- Results may be sorted before they are merged. -/
  merge_eq : ∀ other : Result,
    (result.merge other).sort = (result.sort.merge other.sort).sort
  /-- A result may be sorted before suppressions are applied to it. -/
  filter_eq : ∀ suppressions,
    (result.filter suppressions).sort = (result.sort.filter suppressions).sort
  /-- Merging has no order of its own, and the empty result adds nothing. -/
  merge_merge_eq : ∀ second third : Result,
    (result.merge second).merge third = result.merge (second.merge third)
  empty_merge_eq : empty.merge result = result
  merge_empty_eq : result.merge empty = result

/-- Every result has a normal form, which sorting gives. -/
theorem sortsToNormalForm (result : Result) : SortsToNormalForm result where
  violations_perm := List.mergeSort_perm ..
  suppressed_perm := List.mergeSort_perm ..
  skipped_perm := List.mergeSort_perm ..
  scanned_eq := rfl
  violations_ordered := pairwise_mergeSort_placedLE id result.violations
  suppressed_ordered := pairwise_mergeSort_placedLE Suppressed.violation result.suppressed
  skipped_ordered := pairwise_skipped_sort result
  violations_stable file offset := filter_isAt_mergeSort id file offset result.violations
  suppressed_stable file offset :=
    filter_isAt_mergeSort Suppressed.violation file offset result.suppressed
  sort_sort_eq := sort_sort result
  merge_eq other := (sort_merge_sort result other).symm
  filter_eq suppressions := (sort_filter_sort result suppressions).symm
  merge_merge_eq := merge_assoc result
  empty_merge_eq := empty_merge result
  merge_empty_eq := merge_empty result

end Result

end LeadingDot
