import LeadingDot.Tree.Node

/-!
# Cursors

A cursor stands at a node of a tree and moves one step at a time: to the first child, to
the next sibling, or back to the parent. It keeps what lies ahead of it, so no move
searches the tree.
-/

namespace LeadingDot

/-- A node that a walk stands at, with the way on from there. -/
structure Cursor where
  node : Node
  /-- The later siblings of the node. -/
  later : List Node
  /-- The nodes above, the parent first, each with its later siblings. -/
  above : List (Node × List Node)

namespace Cursor

/-- The cursor at the root of a tree. -/
def ofRoot (root : Node) : Cursor := ⟨root, [], []⟩

/-- Moves to the first child. -/
def firstChild? (cursor : Cursor) : Option Cursor :=
  match cursor.node.children with
  | [] => none
  | child :: later => some ⟨child, later, (cursor.node, cursor.later) :: cursor.above⟩

/-- Moves to the next sibling. -/
def nextSibling? (cursor : Cursor) : Option Cursor :=
  match cursor.later with
  | [] => none
  | sibling :: later => some ⟨sibling, later, cursor.above⟩

/-- Moves back to the parent. -/
def parent? (cursor : Cursor) : Option Cursor :=
  match cursor.above with
  | [] => none
  | (parent, later) :: above => some ⟨parent, later, above⟩

variable {cursor child next parent : Cursor}

theorem children_of_firstChild? (h : cursor.firstChild? = some child) :
    cursor.node.children = child.node :: child.later ∧
      child.above = (cursor.node, cursor.later) :: cursor.above := by
  unfold firstChild? at h
  split at h <;> cases h
  next heq => exact ⟨heq, rfl⟩

theorem children_of_firstChild?_eq_none (h : cursor.firstChild? = none) :
    cursor.node.children = [] := by
  unfold firstChild? at h
  split at h
  · assumption
  · cases h

theorem later_of_nextSibling? (h : cursor.nextSibling? = some next) :
    cursor.later = next.node :: next.later ∧ next.above = cursor.above := by
  unfold nextSibling? at h
  split at h <;> cases h
  next heq => exact ⟨heq, rfl⟩

theorem later_of_nextSibling?_eq_none (h : cursor.nextSibling? = none) : cursor.later = [] := by
  unfold nextSibling? at h
  split at h
  · assumption
  · cases h

theorem above_of_parent? (h : cursor.parent? = some parent) :
    cursor.above = (parent.node, parent.later) :: parent.above := by
  unfold parent? at h
  split at h <;> cases h
  assumption

theorem above_of_parent?_eq_none (h : cursor.parent? = none) : cursor.above = [] := by
  unfold parent? at h
  split at h
  · assumption
  · cases h

/-- Number of nodes that come after everything below the cursor. -/
def ahead (cursor : Cursor) : Nat :=
  Node.sizeAll cursor.later + Node.sizeAll (cursor.above.flatMap fun up => up.2)

/-- Number of nodes above the cursor. -/
def depth (cursor : Cursor) : Nat :=
  cursor.above.length

theorem ahead_firstChild? (h : cursor.firstChild? = some child) :
    child.node.size + child.ahead + 1 = cursor.node.size + cursor.ahead := by
  obtain ⟨hchildren, habove⟩ := children_of_firstChild? h
  simp only [ahead, Node.size_eq cursor.node, hchildren, habove, Node.sizeAll_cons,
    List.flatMap_cons, Node.sizeAll_append]
  omega

theorem depth_firstChild? (h : cursor.firstChild? = some child) :
    child.depth = cursor.depth + 1 := by
  simp [depth, (children_of_firstChild? h).2]

theorem ahead_nextSibling? (h : cursor.nextSibling? = some next) :
    next.node.size + next.ahead = cursor.ahead := by
  obtain ⟨hlater, habove⟩ := later_of_nextSibling? h
  simp only [ahead, hlater, habove, Node.sizeAll_cons]
  omega

theorem depth_nextSibling? (h : cursor.nextSibling? = some next) : next.depth = cursor.depth := by
  simp [depth, (later_of_nextSibling? h).2]

theorem ahead_parent? (h : cursor.parent? = some parent) : parent.ahead ≤ cursor.ahead := by
  simp only [ahead, above_of_parent? h, List.flatMap_cons, Node.sizeAll_append]
  omega

theorem depth_parent? (h : cursor.parent? = some parent) : parent.depth + 1 = cursor.depth := by
  simp [depth, above_of_parent? h]

end Cursor

end LeadingDot
