import LeadingDot.Proofs.Result.Order
import LeadingDot.Proofs.Result.Verdict
import LeadingDot.Proofs.Suppression.Directives

/-!
# What is done to a result

A result is built by adding to it, merging others into it, sorting it and applying suppressions.
Whatever is done in whatever order, nothing that was brought in is lost or doubled: a violation
only moves among the active ones or from these to the suppressed ones. Once suppressions have
been applied, none of the active violations is covered by them until new ones are brought in.
-/

namespace LeadingDot.Result

/-- Something that is done to a result. -/
inductive Operation where
  /-- Adds a violation. -/
  | push (found : Violation)
  /-- Adds a violation that is suppressed already. -/
  | pushSuppressed (found : Suppressed)
  /-- Adds a file that is skipped. -/
  | skip (file : String)
  /-- Says how many files have been scanned. -/
  | setScanned (count : Nat)
  | merge (other : Result)
  | sort
  | filter (suppressions : List Suppression)

namespace Operation

/-- The violations that an operation brings in, suppressed ones among them. -/
def brought : Operation → List Violation
  | push found => [found]
  | pushSuppressed found => [found.violation]
  | merge other => other.violations ++ other.suppressed.map (·.violation)
  | _ => []

/-- The skipped files that an operation brings in. -/
def broughtFiles : Operation → List String
  | skip file => [file]
  | merge other => other.skipped
  | _ => []

/-- Whether an operation may bring in active violations. -/
def addsActive : Operation → Bool
  | push _ => true
  | merge _ => true
  | _ => false

end Operation

/-- The result after an operation. -/
def apply (result : Result) : Operation → Result
  | .push found => { result with violations := result.violations ++ [found] }
  | .pushSuppressed found => { result with suppressed := result.suppressed ++ [found] }
  | .skip file => { result with skipped := result.skipped ++ [file] }
  | .setScanned count => { result with scanned := count }
  | .merge other => result.merge other
  | .sort => result.sort
  | .filter suppressions => result.filter suppressions

/-- The result of operations one after the other, from the empty one on. -/
def ofOperations (operations : List Operation) : Result :=
  operations.foldl apply empty

/-- All violations of a result, the suppressed ones among them. -/
def allViolations (result : Result) : List Violation :=
  result.violations ++ result.suppressed.map (·.violation)

variable {result : Result} {suppressions : List Suppression} {operation : Operation}

/-- Applying suppressions moves violations and loses none. -/
theorem allViolations_filter_perm (result : Result) (suppressions : List Suppression) :
    (result.filter suppressions).allViolations.Perm result.allViolations := by
  have hsplit := List.filter_append_perm
    (fun found => (Suppression.cover? suppressions found).isSome) result.violations
  rw [allViolations, filter, Suppression.active_eq, List.map_append,
    Suppression.map_violation_suppressed]
  -- The suppressed ones are put last and belong to the violations that were active.
  refine (List.perm_append_comm_assoc _ _ _).trans ?_
  refine List.perm_append_comm.trans ?_
  refine List.Perm.append_right _ ?_
  exact List.perm_append_comm.trans hsplit

/-- An operation leaves all violations there and adds those that it brings in. -/
theorem allViolations_apply_perm (result : Result) (operation : Operation) :
    (result.apply operation).allViolations.Perm (result.allViolations ++ operation.brought) := by
  cases operation with
  | push found =>
    have hswap := @List.perm_append_comm _ [found] (result.suppressed.map (·.violation))
    simpa [apply, allViolations, Operation.brought] using hswap.append_left result.violations
  | pushSuppressed found => simp [apply, allViolations, Operation.brought]
  | skip file => simp [apply, allViolations, Operation.brought]
  | setScanned count => simp [apply, allViolations, Operation.brought]
  | merge other =>
    have hswap := List.perm_append_comm_assoc other.violations
      (result.suppressed.map (·.violation)) (other.suppressed.map (·.violation))
    simpa [apply, merge, allViolations, Operation.brought] using
      hswap.append_left result.violations
  | sort =>
    have hviolations := List.mergeSort_perm result.violations Violation.precedes
    have hsuppressed := List.mergeSort_perm result.suppressed fun a b =>
      a.violation.precedes b.violation
    simpa [apply, sort, allViolations, Operation.brought] using
      hviolations.append (hsuppressed.map (·.violation))
  | filter suppressions =>
    simpa [apply, Operation.brought] using allViolations_filter_perm result suppressions

theorem skipped_apply_perm (result : Result) (operation : Operation) :
    (result.apply operation).skipped.Perm (result.skipped ++ operation.broughtFiles) := by
  cases operation with
  | push found => simp [apply, Operation.broughtFiles]
  | pushSuppressed found => simp [apply, Operation.broughtFiles]
  | skip file => simp [apply, Operation.broughtFiles]
  | setScanned count => simp [apply, Operation.broughtFiles]
  | merge other => simp [apply, merge, Operation.broughtFiles]
  | sort => simpa [apply, sort, Operation.broughtFiles] using List.mergeSort_perm ..
  | filter suppressions => simp [apply, filter, Operation.broughtFiles]

/-- What every operation leaves there and adds to, a sequence of them leaves there and adds to. -/
theorem perm_foldl {α : Type} {view : Result → List α} {brought : Operation → List α}
    (hstep : ∀ result operation,
      (view (apply result operation)).Perm (view result ++ brought operation))
    (operations : List Operation) (result : Result) :
    (view (operations.foldl apply result)).Perm (view result ++ operations.flatMap brought) := by
  induction operations generalizing result with
  | nil => simp
  | cons operation operations ih =>
    have hrest := ih (result.apply operation)
    rw [List.foldl_cons, List.flatMap_cons, ← List.append_assoc]
    exact hrest.trans ((hstep result operation).append_right _)

/-- Whether none of some suppressions covers an active violation. -/
def ClearOf (result : Result) (suppressions : List Suppression) : Prop :=
  ∀ found ∈ result.violations, ∀ suppression ∈ suppressions, suppression.covers found = false

/-- What is active after suppressions have been applied is not covered by them. -/
theorem clearOf_filter (result : Result) (suppressions : List Suppression) :
    (result.filter suppressions).ClearOf suppressions := by
  intro found hfound
  exact (Suppression.mem_active_iff.mp hfound).2

/-- An operation that brings in no active violations makes none of its own. -/
theorem violations_apply_subset (h : operation.addsActive = false) :
    (result.apply operation).violations ⊆ result.violations := by
  cases operation with
  | push found => cases h
  | merge other => cases h
  | pushSuppressed found => exact List.Subset.refl _
  | skip file => exact List.Subset.refl _
  | setScanned count => exact List.Subset.refl _
  | sort => exact (List.mergeSort_perm ..).subset
  | filter suppressions => exact List.filter_subset_self _

theorem ClearOf.foldl (hclear : result.ClearOf suppressions) {operations : List Operation}
    (h : ∀ operation ∈ operations, operation.addsActive = false) :
    (operations.foldl apply result).ClearOf suppressions := by
  induction operations generalizing result with
  | nil => exact hclear
  | cons operation operations ih =>
    obtain ⟨hfirst, hrest⟩ := List.forall_mem_cons.mp h
    refine ih (fun found hfound => ?_) hrest
    exact hclear found (violations_apply_subset hfirst hfound)

/-- What a result says of the operations that led to it. -/
structure Accounts (operations : List Operation) (result : Result) : Prop where
  /-- The violations, active or suppressed, are those that were brought in, each as often. -/
  violations_perm : (result.violations ++ result.suppressed.map (·.violation)).Perm
    (operations.flatMap Operation.brought)
  /-- So are the skipped files. -/
  skipped_perm : result.skipped.Perm (operations.flatMap Operation.broughtFiles)
  /-- Each active violation is counted under its severity. -/
  count_add_count : result.count .error + result.count .warning = result.violations.length
  /-- Errors fail a run. -/
  exitCode_iff : (result.exitCode false).toNat = 1 ↔
    ∃ found ∈ result.violations, found.severity = .error
  /-- All violations fail a strict run. -/
  exitCode_strict_iff : (result.exitCode true).toNat = 1 ↔ result.violations ≠ []
  exitCode_strict : (result.exitCode false).toNat = 1 → (result.exitCode true).toNat = 1
  /-- Suppressions that have been applied leave nothing that they cover, until active violations
  are brought in again. -/
  filtered : ∀ before suppressions after, operations = before ++ .filter suppressions :: after →
    (∀ operation ∈ after, operation.addsActive = false) →
    ∀ found ∈ result.violations, ∀ suppression ∈ suppressions, suppression.covers found = false

/-- Every result accounts for the operations that led to it. -/
theorem accounts_ofOperations (operations : List Operation) :
    Accounts operations (ofOperations operations) where
  violations_perm := perm_foldl allViolations_apply_perm operations empty
  skipped_perm := perm_foldl skipped_apply_perm operations empty
  count_add_count := count_error_add_count_warning _
  exitCode_iff := by
    rw [toNat_exitCode_eq_one_iff]
    simp
  exitCode_strict_iff := by
    rw [toNat_exitCode_eq_one_iff]
    constructor
    · rintro ⟨found, hfound, -⟩
      exact List.ne_nil_of_mem hfound
    · intro hne
      obtain ⟨found, hfound⟩ := List.exists_mem_of_ne_nil _ hne
      exact ⟨found, hfound, Or.inl rfl⟩
  exitCode_strict h := by
    obtain ⟨found, hfound, -⟩ := toNat_exitCode_eq_one_iff.mp h
    exact toNat_exitCode_eq_one_iff.mpr ⟨found, hfound, Or.inl rfl⟩
  filtered before suppressions after hsplit hafter := by
    have hclear := clearOf_filter (ofOperations before) suppressions
    have hresult : ofOperations operations =
        after.foldl apply ((ofOperations before).filter suppressions) := by
      rw [hsplit, ofOperations, List.foldl_append, List.foldl_cons]
      rfl
    rw [hresult]
    exact hclear.foldl hafter

end LeadingDot.Result
