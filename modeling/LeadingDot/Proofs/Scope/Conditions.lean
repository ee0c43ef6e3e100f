import LeadingDot.Proofs.Tree.Layout
import LeadingDot.Scope

/-!
# Hidden conditions

Whether a child of an `if`, `guard` or `while` statement belongs to its condition is told from
byte positions. When the children are in source order, what is told so is a cut in their list: all
children before the body's brace are hidden, also empty ones that touch it, and from the brace on
only those that hang under `condition`.
-/

namespace LeadingDot.Scope

variable {node brace child : Node} {before after : List Node}

/-- The body of a node starts at a brace that is not empty, and no other brace comes before it. -/
structure BodyAt (node : Node) (before : List Node) (brace : Node) (after : List Node) : Prop where
  children : node.children = before ++ brace :: after
  isBrace : brace.kind = "\x7b"
  wide : brace.start < brace.stop
  first : ∀ child ∈ before, child.kind ≠ "\x7b"

/-- A child that does not hang under `condition`. -/
def beyondCondition (child : Node) : Bool := child.field != some "condition"

theorem hides_of_owner (howner : node.kind ∈ conditionOwners) (child : Node) :
    hides node child = inCondition (bodyStart? node) child := by
  rw [hides, if_pos (List.contains_iff_mem.mpr howner)]

theorem hides_of_not_owner (hother : node.kind ∉ conditionOwners) (child : Node) :
    hides node child = false := by
  rw [hides, if_neg (mt List.contains_iff_mem.mp hother)]

theorem BodyAt.bodyStart? (hbody : BodyAt node before brace after) :
    bodyStart? node = some brace.start := by
  have hbefore : ∀ child ∈ before, ¬ (child.kind == "\x7b") = true := by simpa using hbody.first
  have hfind : node.children.find? (·.kind == "\x7b") = some brace :=
    List.find?_eq_some_iff_append.mpr
      ⟨by simp [hbody.isBrace], before, after, hbody.children, by simpa using hbefore⟩
  rw [Scope.bodyStart?, hfind, Option.map_some]

theorem bodyStart?_of_braceless (h : ∀ child ∈ node.children, child.kind ≠ "\x7b") :
    bodyStart? node = none := by
  have hfind : node.children.find? (·.kind == "\x7b") = none :=
    List.find?_eq_none.mpr (by simpa using h)
  rw [bodyStart?, hfind, Option.map_none]

/-- What comes before the brace ends before it, so it is hidden. -/
theorem BodyAt.hides_before (hbody : BodyAt node before brace after)
    (howner : node.kind ∈ conditionOwners) (horder : node.ChildrenInOrder)
    (hchild : child ∈ before) : hides node child = true := by
  have hpairwise := horder.pairwise
  rw [hbody.children] at hpairwise
  have hends : child.stop ≤ brace.start :=
    (List.pairwise_append.mp hpairwise).2.2 child hchild brace List.mem_cons_self
  rw [hides_of_owner howner, hbody.bodyStart?, inCondition, Option.any_some,
    decide_eq_true hends, Bool.or_true]

/-- The brace and what comes after it end behind the start of the brace, so that only the field
can hide them. -/
theorem BodyAt.hides_from (hbody : BodyAt node before brace after)
    (howner : node.kind ∈ conditionOwners) (horder : node.ChildrenInOrder)
    (hchild : child ∈ brace :: after) : hides node child = !beyondCondition child := by
  have hrange := horder.1
  have hpairwise := horder.pairwise
  rw [hbody.children] at hrange hpairwise
  have hends : ¬ child.stop ≤ brace.start := by
    have hwide := hbody.wide
    rcases List.mem_cons.mp hchild with rfl | hafter
    · omega
    · -- The child may be empty, but it starts behind the brace, and that is not.
      have hstart : brace.stop ≤ child.start :=
        List.rel_of_pairwise_cons (List.pairwise_append.mp hpairwise).2.1 hafter
      have hchildRange := hrange child (by simp [hafter])
      omega
  rw [hides_of_owner howner, hbody.bodyStart?, inCondition, Option.any_some,
    decide_eq_false hends, Bool.or_false, beyondCondition, bne, Bool.not_not]

/-- Without a body only the field hides a child. -/
theorem hides_of_braceless (howner : node.kind ∈ conditionOwners)
    (h : ∀ child ∈ node.children, child.kind ≠ "\x7b") (child : Node) :
    hides node child = !beyondCondition child := by
  rw [hides_of_owner howner, bodyStart?_of_braceless h, inCondition, Option.any_none,
    Bool.or_false, beyondCondition, bne, Bool.not_not]

/-- What is visible of a statement whose children are cut at a brace. -/
structure CutAt (node : Node) (before : List Node) (brace : Node) (after : List Node) : Prop where
  /-- The brace and all children after it, without those that hang under `condition`. -/
  visible : visibleChildren node = (brace :: after).filter beyondCondition
  /-- All before the brace is hidden, also what is empty and touches the brace. -/
  before : ∀ child ∈ before, hides node child = true
  /-- From the brace on a child is hidden just when it hangs under `condition`. -/
  fromBrace : ∀ child ∈ brace :: after, hides node child = true ↔ child.field = some "condition"

theorem BodyAt.cutAt (hbody : BodyAt node before brace after)
    (howner : node.kind ∈ conditionOwners) (horder : node.ChildrenInOrder) :
    CutAt node before brace after where
  visible := by
    have hbefore : before.filter (!hides node ·) = [] := by
      refine List.filter_eq_nil_iff.mpr fun child hchild => ?_
      simp [hbody.hides_before howner horder hchild]
    have hfrom : (brace :: after).filter (!hides node ·) =
        (brace :: after).filter beyondCondition := by
      refine List.filter_congr fun child hchild => ?_
      rw [hbody.hides_from howner horder hchild, Bool.not_not]
    rw [visibleChildren, hbody.children, List.filter_append, hbefore, hfrom, List.nil_append]
  before := fun _ hchild => hbody.hides_before howner horder hchild
  fromBrace := by
    intro child hchild
    rw [hbody.hides_from howner horder hchild]
    simp [beyondCondition]

/-- A statement with a condition. -/
def HasCondition (node : Node) : Prop :=
  node.kind ∈ ["if_statement", "guard_statement", "while_statement"]

/-- Which children of a node the walk goes down into. -/
structure CutsAtBody (node : Node) : Prop where
  /-- They stay in order. -/
  sublist : (visibleChildren node).Sublist node.children
  /-- A statement is cut at the brace of its body. -/
  body : HasCondition node → node.ChildrenInOrder →
    ∀ before brace after, BodyAt node before brace after → CutAt node before brace after
  /-- Of a statement without a brace all is visible that does not hang under `condition`. -/
  braceless : HasCondition node → (∀ child ∈ node.children, child.kind ≠ "\x7b") →
    visibleChildren node = node.children.filter beyondCondition
  /-- Of every other node all children are visible. -/
  other : ¬ HasCondition node → visibleChildren node = node.children

/-- The children of every node are cut at its body, if there is one. -/
theorem cutsAtBody (node : Node) : CutsAtBody node where
  sublist := List.filter_sublist
  body := fun howner horder _ _ _ hbody => hbody.cutAt howner horder
  braceless := by
    intro howner hbraceless
    refine List.filter_congr fun child _ => ?_
    rw [hides_of_braceless howner hbraceless, Bool.not_not]
  other := by
    intro hother
    refine List.filter_eq_self.mpr fun child _ => ?_
    rw [hides_of_not_owner hother, Bool.not_false]

/-- An `if` statement with an empty node that touches its brace, with a second brace, and with
a late child under `condition`. -/
def ifElse : Node :=
  ⟨"if_statement", 0, 30, none,
    [⟨"if", 0, 2, none, []⟩, ⟨"simple_identifier", 3, 7, some "condition", []⟩,
     ⟨")", 8, 8, none, []⟩, ⟨"\x7b", 8, 9, none, []⟩, ⟨"statements", 10, 15, none, []⟩,
     ⟨"\x7d", 16, 17, none, []⟩, ⟨"else", 18, 22, none, []⟩, ⟨"\x7b", 23, 24, none, []⟩,
     ⟨"simple_identifier", 25, 28, some "condition", []⟩, ⟨"\x7d", 29, 30, none, []⟩]⟩

/-- The empty node before the brace is hidden, and the `else` is not. -/
theorem cutsAtBody_ifElse :
    HasCondition ifElse ∧ ifElse.ChildrenInOrder ∧
      BodyAt ifElse (ifElse.children.take 3) ⟨"\x7b", 8, 9, none, []⟩ (ifElse.children.drop 4) ∧
      (visibleChildren ifElse).map (·.kind) =
        ["\x7b", "statements", "\x7d", "else", "\x7b", "\x7d"] := by
  have howner : HasCondition ifElse := by unfold HasCondition; decide
  have horder : ifElse.ChildrenInOrder := by decide
  have hbody : BodyAt ifElse (ifElse.children.take 3) ⟨"\x7b", 8, 9, none, []⟩
      (ifElse.children.drop 4) := ⟨rfl, rfl, by decide, by decide⟩
  have hcut := (cutsAtBody ifElse).body howner horder _ _ _ hbody
  refine ⟨howner, horder, hbody, ?_⟩
  rw [hcut.visible]
  decide

end LeadingDot.Scope
