import LeadingDot.Proofs.Tree.Comments
import LeadingDot.Scope

/-!
# Scopes without comments

What a node does to the walk is read from the kinds, the ranges and the fields of its
children. Comments are none of the kinds that are looked for, and a return type is read
without them, so they can be taken out of a node without a change.
-/

namespace LeadingDot.Scope

variable {source : Source} {node child : Node}

section Lists

variable {α : Type} {p q : α → Bool}

/-- What is found in a list is found when others are left out. -/
theorem find?_filter_of {xs : List α} (h : ∀ x, xs.find? p = some x → q x = true) :
    (xs.filter q).find? p = xs.find? p := by
  induction xs with
  | nil => rfl
  | cons x xs ih =>
    by_cases hp : p x = true
    · rw [List.find?_cons_of_pos hp] at h ⊢
      rw [List.filter_cons_of_pos (h x rfl), List.find?_cons_of_pos hp]
    · rw [List.find?_cons_of_neg hp] at h ⊢
      rw [← ih h, List.filter_cons]
      split
      · rw [List.find?_cons_of_neg hp]
      · rfl

/-- Elements that are kept anyway end a run at the same place when others are left out. -/
theorem takeWhile_filter_of (h : ∀ x, p x = false → q x = true) (xs : List α) :
    (xs.filter q).takeWhile p = (xs.takeWhile p).filter q := by
  have hpq : (fun x => !q x || p x) = p := by
    funext x
    cases hp : p x with
    | true => simp
    | false => simp [h x hp]
  rw [List.takeWhile_filter, hpq]

/-- They also stand first after it. -/
theorem drop_dropWhile_filter_of (h : ∀ x, p x = false → q x = true) (xs : List α) :
    ((xs.filter q).dropWhile p).drop 1 = ((xs.dropWhile p).drop 1).filter q := by
  induction xs with
  | nil => rfl
  | cons x xs ih =>
    cases hp : p x with
    | true =>
      rw [List.dropWhile_cons_of_pos hp, ← ih, List.filter_cons]
      split
      · rw [List.dropWhile_cons_of_pos hp]
      · rfl
    | false =>
      rw [List.filter_cons_of_pos (h x hp), List.dropWhile_cons_of_neg (by simp [hp]),
        List.dropWhile_cons_of_neg (by simp [hp])]
      rfl

end Lists

/-- What is looked for by its kind is no comment, if comments are not of that kind. -/
theorem isComment_of_kind {k : String → Bool} (hk : ∀ kind ∈ Node.commentKinds, k kind = false)
    (h : k node.kind = true) : node.isComment = false := by
  by_contra hcomment
  rw [hk node.kind (List.contains_iff_mem.mp (by simpa [Node.isComment] using hcomment))] at h
  cases h

/-- The first child of a sort is found without the comments, if it is no comment. -/
theorem find?_children_withoutComments {p : Node → Bool}
    (hp : ∀ node : Node, p node.withoutComments = p node)
    (hcode : ∀ child, node.children.find? p = some child → child.isComment = false) :
    node.withoutComments.children.find? p =
      (node.children.find? p).map Node.withoutComments := by
  have hcomp : p ∘ Node.withoutComments = p := funext hp
  rw [Node.children_withoutComments, List.find?_map, hcomp,
    find?_filter_of fun child hchild => by rw [hcode child hchild]; rfl]

theorem find?_kind_withoutComments {k : String → Bool}
    (hk : ∀ kind ∈ Node.commentKinds, k kind = false) (node : Node) :
    (node.withoutComments.children.find? fun child => k child.kind) =
      (node.children.find? fun child => k child.kind).map Node.withoutComments :=
  find?_children_withoutComments (by simp) fun child hchild =>
    isComment_of_kind hk (List.find?_some (p := fun child : Node => k child.kind) hchild)

theorem typeKeyword?_withoutComments (h : node.CommentsApart) :
    typeKeyword? node.withoutComments = typeKeyword? node := by
  have hkeyword : node.withoutComments.childByField? "declaration_kind" =
      (node.childByField? "declaration_kind").map Node.withoutComments :=
    find?_children_withoutComments (by simp) h.keyword
  have hfirst := find?_kind_withoutComments (k := typeKeywords.contains) (by decide) node
  rw [typeKeyword?, typeKeyword?, hkeyword, hfirst]
  cases node.childByField? "declaration_kind" with
  | some keyword => simp
  | none => simp [Function.comp_def]

/-- A return type is read from the same nodes if the comments among the children are left out. -/
theorem returnTypeNodes_filter (node : Node) :
    returnTypeNodes { node with children := node.children.filter (!·.isComment) } =
      returnTypeNodes node := by
  have harrow : ∀ child : Node, (child.kind != "->") = false → (!child.isComment) = true := by
    intro child hchild
    rw [isComment_of_kind (k := (· == "->")) (by decide) (by simpa using hchild)]
    rfl
  have hend : ∀ child : Node, (!returnTypeEnds.contains child.kind) = false →
      (!child.isComment) = true := by
    intro child hchild
    rw [isComment_of_kind (k := returnTypeEnds.contains) (by decide) (by simpa using hchild)]
    rfl
  simp only [returnTypeNodes]
  rw [drop_dropWhile_filter_of harrow, takeWhile_filter_of hend, List.filter_filter]
  simp only [Bool.and_self]

theorem returnTypeNodes_withoutComments (node : Node) :
    returnTypeNodes node.withoutComments = (returnTypeNodes node).map Node.withoutComments := by
  rw [← returnTypeNodes_filter node]
  simp only [returnTypeNodes, Node.children_withoutComments, List.dropWhile_map, ← List.map_drop,
    List.takeWhile_map, List.filter_map, Function.comp_def, Node.kind_withoutComments,
    Node.isComment_withoutComments]

theorem returnType?_withoutComments (source : Source) (node : Node) :
    returnType? source node.withoutComments = returnType? source node := by
  rw [returnType?, returnType?, returnTypeNodes_withoutComments, List.head?_map, List.getLast?_map]
  cases (returnTypeNodes node).head? <;> cases (returnTypeNodes node).getLast? <;> simp

theorem annotationNode?_withoutComments (node : Node) :
    annotationNode? node.withoutComments = (annotationNode? node).map Node.withoutComments := by
  have hcomma : ∀ child : Node, (child.kind != ",") = false → (!child.isComment) = true := by
    intro child hchild
    rw [isComment_of_kind (k := (· == ",")) (by decide) (by simpa using hchild)]
    rfl
  simp only [annotationNode?, Node.children_withoutComments, List.takeWhile_map, List.find?_map,
    Function.comp_def, Node.kind_withoutComments]
  rw [takeWhile_filter_of hcomma, find?_filter_of fun child hchild => ?_]
  have hkind : (child.kind == "type_annotation") = true :=
    List.find?_some (p := fun child : Node => child.kind == "type_annotation") hchild
  rw [isComment_of_kind (k := (· == "type_annotation")) (by decide) hkind]
  rfl

theorem declaredType?_withoutComments (source : Source) (node : Node) :
    declaredType? source node.withoutComments = declaredType? source node := by
  rw [declaredType?, declaredType?, annotationNode?_withoutComments]
  cases annotationNode? node <;> simp

/-- A node does the same to the walk without the comments in it. -/
theorem classify_withoutComments (source : Source) (h : node.CommentsApart) :
    classify source node.withoutComments = classify source node := by
  simp only [classify, Node.kind_withoutComments, typeKeyword?_withoutComments h,
    returnType?_withoutComments, declaredType?_withoutComments]

theorem bodyStart?_withoutComments (node : Node) :
    bodyStart? node.withoutComments = bodyStart? node := by
  rw [bodyStart?, bodyStart?,
    find?_kind_withoutComments (k := (· == "\x7b")) (by decide) node]
  simp [Function.comp_def]

/-- The walk passes over the same children. -/
theorem hides_withoutComments (node child : Node) :
    hides node.withoutComments child.withoutComments = hides node child := by
  simp only [hides, Node.kind_withoutComments, bodyStart?_withoutComments]
  split
  · simp [inCondition]
  · rfl

end LeadingDot.Scope
