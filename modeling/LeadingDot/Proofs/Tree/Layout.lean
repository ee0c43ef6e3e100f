import LeadingDot.Proofs.Tree.Address
import Mathlib.Data.List.Chain

/-!
# The layout of a tree

A parser builds trees whose nodes lie inside each other and beside each other in the
source. Two nodes of such a tree are therefore nested when one is below the other, and
otherwise the one that comes first in pre-order ends before the other starts.
-/

namespace LeadingDot

namespace Node

/-- The children are in source order and do not overlap: none has a range backwards, and each
ends before the next one starts. -/
def ChildrenInOrder (node : Node) : Prop :=
  (∀ child ∈ node.children, child.start ≤ child.stop) ∧
    node.children.IsChain fun child next => child.stop ≤ next.start

instance (node : Node) : Decidable node.ChildrenInOrder :=
  inferInstanceAs (Decidable (_ ∧ _))

/-- A child ends before any later child starts. -/
theorem ChildrenInOrder.pairwise {node : Node} (h : node.ChildrenInOrder) :
    node.children.Pairwise fun child later => child.stop ≤ later.start := by
  obtain ⟨hrange, hchain⟩ := h
  generalize node.children = children at hrange hchain
  induction children with
  | nil => exact List.Pairwise.nil
  | cons child children ih =>
    have htail := ih (fun c hc => hrange c (List.mem_cons_of_mem _ hc)) hchain.tail
    refine List.pairwise_cons.mpr ⟨?_, htail⟩
    cases children with
    | nil => simp
    | cons next rest =>
      have hnext := (List.isChain_cons_cons.mp hchain).1
      have hwide := hrange next (by simp)
      intro later hlater
      rcases List.mem_cons.mp hlater with rfl | hlater
      · exact hnext
      · have := List.rel_of_pairwise_cons htail hlater
        omega

/-- The range of a node is no range backwards, the children lie in it, and each child ends
before the next one starts. -/
def LaidOut (node : Node) : Prop :=
  node.start ≤ node.stop ∧
    (∀ child ∈ node.children, node.start ≤ child.start ∧ child.stop ≤ node.stop) ∧
    node.children.IsChain fun child next => child.stop ≤ next.start

instance (node : Node) : Decidable node.LaidOut :=
  inferInstanceAs (Decidable (_ ∧ _ ∧ _))

/-- A tree all of whose nodes are laid out. -/
def WellFormed (root : Node) : Prop :=
  ∀ node ∈ root.preorder, node.LaidOut

instance (root : Node) : Decidable root.WellFormed :=
  inferInstanceAs (Decidable (∀ node ∈ root.preorder, node.LaidOut))

namespace WellFormed

variable {root node below first second : Node} {address other : Address}

/-- What is below a well-formed node is well-formed. -/
theorem at? (h : root.WellFormed) (hnode : root.at? address = some node) : node.WellFormed := by
  intro n hn
  obtain ⟨rest, hrest⟩ := mem_preorder.mp hn
  refine h n (mem_preorder.mpr ⟨address ++ rest, ?_⟩)
  rw [at?_append, hnode, Option.bind_some, hrest]

theorem laidOut (h : root.WellFormed) : root.LaidOut :=
  h root (mem_preorder.mpr ⟨[], rfl⟩)

theorem child (h : root.WellFormed) {i : Nat} (hi : root.children[i]? = some node) :
    node.WellFormed := by
  have hnode : root.at? [i] = some node := by rw [at?_cons, hi, Option.bind_some, at?_nil]
  exact h.at? hnode

/-- What is below a node lies in its range. -/
theorem nested (h : root.WellFormed) (hbelow : root.at? address = some below) :
    root.start ≤ below.start ∧ below.stop ≤ root.stop := by
  induction address generalizing root with
  | nil =>
    cases hbelow
    exact ⟨le_rfl, le_rfl⟩
  | cons i address ih =>
    obtain ⟨node, hi, hbelow⟩ := Option.bind_eq_some_iff.mp hbelow
    have hnode := h.laidOut.2.1 node (List.mem_of_getElem? hi)
    have hinner := ih (h.child hi) hbelow
    exact ⟨by omega, by omega⟩

theorem childrenInOrder (h : root.WellFormed) : root.ChildrenInOrder := by
  refine ⟨fun child hchild => ?_, h.laidOut.2.2⟩
  obtain ⟨i, hi⟩ := List.mem_iff_getElem?.mp hchild
  exact (h.child hi).laidOut.1

/-- Of two nodes that are not nested the first in pre-order ends before the other starts. -/
theorem stop_le_start (h : root.WellFormed) (hfirst : root.at? address = some first)
    (hsecond : root.at? other = some second) (hlt : address < other)
    (hbeside : ¬ address <+: other) : first.stop ≤ second.start := by
  induction address generalizing root other with
  | nil => exact absurd List.nil_prefix hbeside
  | cons i address ih =>
    cases other with
    | nil => exact absurd hlt (List.not_lt_nil _)
    | cons j other =>
      obtain ⟨left, hleft, hfirst⟩ := Option.bind_eq_some_iff.mp hfirst
      obtain ⟨right, hright, hsecond⟩ := Option.bind_eq_some_iff.mp hsecond
      rcases List.cons_lt_cons_iff.mp hlt with hij | ⟨rfl, hless⟩
      · have hbetween : left.stop ≤ right.start := by
          obtain ⟨hi, rfl⟩ := List.getElem?_eq_some_iff.mp hleft
          obtain ⟨hj, rfl⟩ := List.getElem?_eq_some_iff.mp hright
          exact List.pairwise_iff_getElem.mp h.childrenInOrder.pairwise i j hi hj hij
        have hl := (h.child hleft).nested hfirst
        have hr := (h.child hright).nested hsecond
        omega
      · obtain rfl : left = right := Option.some.inj (hleft.symm.trans hright)
        refine ih (h.child hleft) hfirst hsecond hless fun hbelow => hbeside ?_
        exact List.cons_prefix_cons.mpr ⟨rfl, hbelow⟩

end WellFormed

end Node

end LeadingDot
