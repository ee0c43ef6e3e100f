import Mathlib.Data.List.Perm.Basic
import Mathlib.Data.String.Basic

/-!
# Stable sorts

A stable sort keeps elements that tie in the order in which they came. So what a sort gives
is decided by the elements of each tie, in their order: lists that agree on these are sorted
alike.
-/

namespace LeadingDot

section StableSort

variable {α : Type} {le : α → α → Bool} {xs ys : List α}

/-- Whether neither of two elements comes before the other. -/
def tied (le : α → α → Bool) (a b : α) : Bool :=
  le a b && le b a

variable (trans : ∀ a b c, le a b = true → le b c = true → le a c = true)
  (total : ∀ a b, (le a b || le b a) = true)

include total

theorem tied_self (a : α) : tied le a a = true := by
  have h := total a a
  rw [Bool.or_self] at h
  rw [tied, h, Bool.and_self]

include trans

/-- A sort keeps elements that may stand in any order in the one they came in. -/
theorem filter_mergeSort_of_le {p : α → Bool}
    (h : ∀ a b, p a = true → p b = true → le a b = true) (xs : List α) :
    (xs.mergeSort le).filter p = xs.filter p := by
  have hties : (xs.filter p).Pairwise fun a b => le a b = true :=
    List.pairwise_of_forall_mem_list fun a ha b hb =>
      h a b (List.mem_filter.mp ha).2 (List.mem_filter.mp hb).2
  have hsub := (List.sublist_mergeSort trans total hties List.filter_sublist).filter p
  simp only [List.filter_filter, Bool.and_self] at hsub
  exact (hsub.eq_of_length ((List.mergeSort_perm xs le).symm.filter _).length_eq).symm

/-- A sort keeps the elements of a tie in their order. -/
theorem filter_tied_mergeSort (a : α) (xs : List α) :
    (xs.mergeSort le).filter (tied le a) = xs.filter (tied le a) := by
  refine filter_mergeSort_of_le trans total (fun b c hb hc => ?_) xs
  exact trans b a c (Bool.and_eq_true_iff.mp hb).2 (Bool.and_eq_true_iff.mp hc).1

omit trans in
/-- An ordered list is decided by the elements of each tie, in their order. -/
theorem eq_of_filter_tied_eq (hxs : xs.Pairwise fun a b => le a b = true)
    (hys : ys.Pairwise fun a b => le a b = true)
    (h : ∀ a, xs.filter (tied le a) = ys.filter (tied le a)) : xs = ys := by
  induction xs generalizing ys with
  | nil =>
    cases ys with
    | nil => rfl
    | cons y ys =>
      have hy := h y
      rw [List.filter_cons_of_pos (tied_self total y)] at hy
      cases hy
  | cons x xs ih =>
    cases ys with
    | nil =>
      have hx := h x
      rw [List.filter_cons_of_pos (tied_self total x)] at hx
      cases hx
    | cons y ys =>
      -- The first elements are in both lists, so each may stand before the other.
      have hmem : x ∈ (y :: ys).filter (tied le x) :=
        h x ▸ List.mem_filter.mpr ⟨List.mem_cons_self, tied_self total x⟩
      have hmem' : y ∈ (x :: xs).filter (tied le y) :=
        h y ▸ List.mem_filter.mpr ⟨List.mem_cons_self, tied_self total y⟩
      have hself : ∀ a, le a a = true := fun a => (Bool.and_eq_true_iff.mp (tied_self total a)).1
      have hyx : le y x = true := by
        rcases List.mem_cons.mp (List.mem_of_mem_filter hmem) with rfl | hmem
        · exact hself x
        · exact List.rel_of_pairwise_cons hys hmem
      have hxy : le x y = true := by
        rcases List.mem_cons.mp (List.mem_of_mem_filter hmem') with rfl | hmem'
        · exact hself y
        · exact List.rel_of_pairwise_cons hxs hmem'
      have htied : tied le x y = true := Bool.and_eq_true_iff.mpr ⟨hxy, hyx⟩
      have hx := h x
      rw [List.filter_cons_of_pos (tied_self total x), List.filter_cons_of_pos htied] at hx
      obtain ⟨rfl, -⟩ := List.cons.inj hx
      congr 1
      refine ih hxs.of_cons hys.of_cons fun a => ?_
      have ha := h a
      rw [List.filter_cons, List.filter_cons] at ha
      split at ha
      · exact (List.cons.inj ha).2
      · exact ha

/-- Lists are sorted alike if and only if they agree on the elements of each tie. -/
theorem mergeSort_eq_iff :
    xs.mergeSort le = ys.mergeSort le ↔ ∀ a, xs.filter (tied le a) = ys.filter (tied le a) := by
  constructor
  · intro h a
    rw [← filter_tied_mergeSort trans total a xs, h, filter_tied_mergeSort trans total]
  · intro h
    refine eq_of_filter_tied_eq total (List.pairwise_mergeSort trans total xs)
      (List.pairwise_mergeSort trans total ys) fun a => ?_
    rw [filter_tied_mergeSort trans total, filter_tied_mergeSort trans total, h]

/-- What a filter takes out of a list does not change the order of the others. -/
theorem filter_mergeSort (p : α → Bool) (xs : List α) :
    (xs.mergeSort le).filter p = (xs.filter p).mergeSort le := by
  have hsorted := (List.pairwise_mergeSort trans total xs).filter p
  refine eq_of_filter_tied_eq total hsorted (List.pairwise_mergeSort trans total _) fun a => ?_
  have hswap : ∀ ys : List α,
      (ys.filter p).filter (tied le a) = (ys.filter (tied le a)).filter p := by
    intro ys
    simp only [List.filter_filter, Bool.and_comm]
  rw [filter_tied_mergeSort trans total, hswap, hswap, filter_tied_mergeSort trans total]

end StableSort

/-- What is sorted by names is in the order of the names. -/
theorem pairwise_mergeSort_name {α β : Type} [LE β] [DecidableLE β] [Std.IsLinearPreorder β]
    (name : α → β) (xs : List α) :
    (xs.mergeSort fun a b => name a ≤ name b).Pairwise fun a b => name a ≤ name b := by
  have trans : ∀ a b c, decide (name a ≤ name b) = true → decide (name b ≤ name c) = true →
      decide (name a ≤ name c) = true := fun a b c hab hbc =>
    decide_eq_true (Std.le_trans (of_decide_eq_true hab) (of_decide_eq_true hbc))
  have total : ∀ a b, (decide (name a ≤ name b) || decide (name b ≤ name a)) = true := fun a b => by
    simpa using Std.le_total (a := name a) (b := name b)
  exact (List.pairwise_mergeSort trans total xs).imp of_decide_eq_true

end LeadingDot
