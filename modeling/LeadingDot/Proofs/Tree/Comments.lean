import LeadingDot.Proofs.Tree.TokenSweep

/-!
# Trees without comments

Comments can stand between any two nodes of a tree. When they are taken out, the other nodes
keep their ranges, and the tokens stay the same as long as no node loses all its children:
such a node would become a leaf, and a token where there was none.
-/

namespace LeadingDot

/-- If what is left out gives nothing and the rest gives what it gave before, a list gives what
it gave before. -/
theorem flatMap_map_filter {α β γ : Type} {xs : List α} {q : α → Bool} {f : α → β}
    {g : α → List γ} {g' : β → List γ} (hout : ∀ x ∈ xs, q x = false → g x = [])
    (hin : ∀ x ∈ xs, q x = true → g' (f x) = g x) :
    ((xs.filter q).map f).flatMap g' = xs.flatMap g := by
  induction xs with
  | nil => rfl
  | cons x xs ih =>
    have hrest := ih (fun y hy => hout y (List.mem_cons_of_mem _ hy))
      fun y hy => hin y (List.mem_cons_of_mem _ hy)
    rw [List.flatMap_cons, ← hrest]
    cases hx : q x with
    | true =>
      rw [List.filter_cons_of_pos hx, List.map_cons, List.flatMap_cons, hin x List.mem_cons_self hx]
    | false =>
      rw [List.filter_cons_of_neg (by simp [hx]), hout x List.mem_cons_self hx, List.nil_append]

namespace Node

mutual

/-- A tree without the comments below its root. -/
def withoutComments : Node → Node
  | ⟨kind, start, stop, field, children⟩ => ⟨kind, start, stop, field, keepCode children⟩

/-- The trees that are no comments, without the comments in them. -/
def keepCode : List Node → List Node
  | [] => []
  | node :: nodes =>
    if node.isComment then keepCode nodes else withoutComments node :: keepCode nodes

end

mutual

/-- The nodes of a tree that are no comments and have none above them, in pre-order. -/
def code : Node → List Node
  | ⟨kind, start, stop, field, children⟩ =>
    if commentKinds.contains kind then []
    else ⟨kind, start, stop, field, children⟩ :: codeAll children

/-- The nodes of several trees that are no comments and have none above them. -/
def codeAll : List Node → List Node
  | [] => []
  | node :: nodes => code node ++ codeAll nodes

end

variable {source : Source} {root node child : Node}

@[simp] theorem kind_withoutComments (node : Node) : node.withoutComments.kind = node.kind := by
  obtain ⟨⟩ := node
  rfl

@[simp] theorem start_withoutComments (node : Node) : node.withoutComments.start = node.start := by
  obtain ⟨⟩ := node
  rfl

@[simp] theorem stop_withoutComments (node : Node) : node.withoutComments.stop = node.stop := by
  obtain ⟨⟩ := node
  rfl

@[simp] theorem field_withoutComments (node : Node) : node.withoutComments.field = node.field := by
  obtain ⟨⟩ := node
  rfl

@[simp] theorem isComment_withoutComments (node : Node) :
    node.withoutComments.isComment = node.isComment := by
  rw [isComment, kind_withoutComments, isComment]

@[simp] theorem text?_withoutComments (source : Source) (node : Node) :
    node.withoutComments.text? source = node.text? source := by
  rw [text?, start_withoutComments, stop_withoutComments, text?]

@[simp] theorem text_withoutComments (source : Source) (node : Node) :
    node.withoutComments.text source = node.text source := by
  rw [text, text?_withoutComments, text]

theorem keepCode_eq (nodes : List Node) :
    keepCode nodes = (nodes.filter (!·.isComment)).map withoutComments := by
  induction nodes with
  | nil => rfl
  | cons node nodes ih =>
    rw [keepCode, ih]
    cases hcomment : node.isComment <;> simp [hcomment]

@[simp] theorem children_withoutComments (node : Node) :
    node.withoutComments.children = (node.children.filter (!·.isComment)).map withoutComments := by
  obtain ⟨kind, start, stop, field, children⟩ := node
  exact keepCode_eq children

theorem codeAll_eq_flatMap (nodes : List Node) : codeAll nodes = nodes.flatMap code := by
  induction nodes with
  | nil => rfl
  | cons node nodes ih => rw [codeAll, ih, List.flatMap_cons]

theorem code_eq (h : node.isComment = false) : node.code = node :: node.children.flatMap code := by
  obtain ⟨kind, start, stop, field, children⟩ := node
  rw [code, if_neg (by simpa [isComment] using h), codeAll_eq_flatMap]

/-- The comments among the children of a node are of no account: they hold no identifier and
are not what the node is looked up for, and the node has other children besides. -/
structure CommentsApart (node : Node) : Prop where
  name : ∀ child ∈ node.childByField? "name", child.isComment = false
  keyword : ∀ child ∈ node.childByField? "declaration_kind", child.isComment = false
  noIdentifier : ∀ child ∈ node.children, child.isComment = true →
    ∀ below ∈ child.preorder, below.kind ≠ "simple_identifier"
  keeps : node.children ≠ [] → ∃ child ∈ node.children, child.isComment = false

instance (node : Node) : Decidable node.CommentsApart :=
  decidable_of_iff
    ((∀ child ∈ node.childByField? "name", child.isComment = false) ∧
      (∀ child ∈ node.childByField? "declaration_kind", child.isComment = false) ∧
      (∀ child ∈ node.children, child.isComment = true →
        ∀ below ∈ child.preorder, below.kind ≠ "simple_identifier") ∧
      (node.children ≠ [] → ∃ child ∈ node.children, child.isComment = false))
    ⟨fun ⟨name, keyword, noIdentifier, keeps⟩ => ⟨name, keyword, noIdentifier, keeps⟩,
      fun h => ⟨h.name, h.keyword, h.noIdentifier, h.keeps⟩⟩

/-- A tree whose root is no comment and in which the comments are of no account. -/
def CodeApart (root : Node) : Prop :=
  root.isComment = false ∧ ∀ node ∈ root.code, node.CommentsApart

instance (root : Node) : Decidable root.CodeApart :=
  inferInstanceAs (Decidable (_ ∧ ∀ node ∈ root.code, _))

namespace CodeApart

theorem commentsApart (h : root.CodeApart) : root.CommentsApart :=
  h.2 root (code_eq h.1 ▸ List.mem_cons_self)

/-- What hangs in such a tree is such a tree, if it is no comment. -/
theorem of_mem_children (h : root.CodeApart) (hchild : child ∈ root.children)
    (hcode : child.isComment = false) : child.CodeApart := by
  refine ⟨hcode, fun node hnode => h.2 node ?_⟩
  rw [code_eq h.1]
  exact List.mem_cons_of_mem _ (List.mem_flatMap.mpr ⟨child, hchild, hnode⟩)

end CodeApart

/-- The tokens of a tree are those of the tree without comments. -/
theorem tokens_withoutComments (source : Source) (h : root.CodeApart) :
    root.withoutComments.tokens source = root.tokens source := by
  induction root using Node.induction with
  | step node ih =>
    have hcode : node.withoutComments.isComment = false := by
      rw [isComment_withoutComments, h.1]
    by_cases hleaf : node.children = []
    · have hleaf' : node.withoutComments.children = [] := by simp [hleaf]
      rw [tokens_of_leaf h.1 hleaf, tokens_of_leaf hcode hleaf']
      simp [Token.ofLeaf]
    · obtain ⟨child, hchild, hkept⟩ := h.commentsApart.keeps hleaf
      have hinner : node.withoutComments.children ≠ [] := by
        rw [children_withoutComments]
        refine List.ne_nil_of_mem (List.mem_map_of_mem (List.mem_filter.mpr ⟨hchild, ?_⟩))
        rw [hkept]
        rfl
      rw [tokens_of_inner h.1 hleaf, tokens_of_inner hcode hinner]
      rw [children_withoutComments]
      refine flatMap_map_filter (fun child _ hout => ?_) fun child hchild hin => ?_
      · exact tokens_of_isComment (by simpa using hout)
      · exact ih child hchild (h.of_mem_children hchild (by simpa using hin))

end Node

/-- A tree has the same stream of tokens without its comments. -/
theorem TokenStream.ofNode_withoutComments (source : Source) {root : Node} (h : root.CodeApart) :
    ofNode source root.withoutComments = ofNode source root := by
  have htokens : (ofNode source root.withoutComments).tokens = (ofNode source root).tokens := by
    rw [← Array.toList_inj, toList_ofNode, toList_ofNode, Node.tokens_withoutComments source h]
  exact congrArg TokenStream.mk htokens

end LeadingDot
