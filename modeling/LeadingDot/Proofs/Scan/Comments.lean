import LeadingDot.Proofs.Scan.Findings
import LeadingDot.Proofs.Scope.Comments

/-!
# Scans without comments

A scan of a tree and one of the tree without its comments go the same way: each node has the
same effect in both, hides the same children and stands between the same tokens, and in the
comments themselves nothing is found. So both report the same violations.
-/

namespace LeadingDot.Scan

/-- The elements of a list, each with whether it is the first one that satisfies `p`. -/
def markFirst {α : Type} (p : α → Bool) : List α → List (α × Bool)
  | [] => []
  | x :: xs => (x, p x) :: if p x then xs.map (·, false) else markFirst p xs

section Marks

variable {α β : Type}

/-- The first one is told by its number. -/
theorem map_zipIdx_findIdx? (p : α → Bool) (xs : List α) :
    (xs.zipIdx.map fun x => (x.1, xs.findIdx? p == some x.2)) = markFirst p xs := by
  induction xs with
  | nil => rfl
  | cons x xs ih =>
    rw [markFirst, ← ih, List.zipIdx_cons', List.map_cons, List.map_map, List.findIdx?_cons]
    split
    · next hx =>
      have hnone : (xs.zipIdx.map fun x => (x.1, false)) = xs.map (·, false) := by
        rw [← List.zipIdx_map_fst 0 xs, List.map_map, List.zipIdx_map_fst]
        rfl
      simpa [Function.comp_def, hx] using hnone
    · next hx => simp [Function.comp_def, hx]

/-- The first one stays the first one when others are left out. -/
theorem markFirst_map_filter {p : β → Bool} {q : α → Bool} {f : α → β} {xs : List α}
    (h : ∀ x, xs.find? (p ∘ f) = some x → q x = true) :
    markFirst p ((xs.filter q).map f) =
      ((markFirst (p ∘ f) xs).filter (q ·.1)).map fun x => (f x.1, x.2) := by
  induction xs with
  | nil => rfl
  | cons x xs ih =>
    by_cases hp : p (f x) = true
    · rw [List.find?_cons_of_pos (p := p ∘ f) hp] at h
      have hx := h x rfl
      simp [markFirst, hx, hp, List.filter_map, Function.comp_def]
    · rw [List.find?_cons_of_neg (p := p ∘ f) hp] at h
      cases hx : q x <;> simp [markFirst, hx, hp, ih h]

end Marks

/-- What is made of the frames below a node is made of the children that are not hidden, each
with whether it is the one that names the node. -/
theorem flatMap_framesBelow {α : Type} (node : Node) (checked : Bool) (g : Frame → List α) :
    (framesBelow node checked).flatMap g =
      (markFirst (·.field == some "name") node.children).flatMap fun child =>
        if Scope.hides node child.1 then [] else g ⟨child.1, ⟨some node, child.2⟩, checked⟩ := by
  rw [← map_zipIdx_findIdx?, List.flatMap_map, framesBelow_eq]
  exact flatMap_map_filter (fun _ _ hidden => if_pos (by simpa using hidden))
    fun _ _ hvisible => (if_neg (by simpa using hvisible)).symm

variable {context : Context} {node : Node}

/-- Nothing is reported where there is no identifier. -/
theorem reports_eq_nil {frame : Frame}
    (h : ∀ below ∈ frame.node.preorder, below.kind ≠ "simple_identifier") :
    frame.reports context = [] := by
  rw [Frame.reports, List.filterMap_eq_nil_iff]
  intro address _
  by_contra hfound
  obtain ⟨found, hfound⟩ := Option.ne_none_iff_exists'.mp hfound
  obtain ⟨trail, node, htrail, hlast, -, -, -, hcall, -⟩ := report?_eq_some_iff.mp hfound
  have hnode := Node.getLast?_of_trail? htrail ▸ hlast
  exact h node (Node.mem_preorder.mpr ⟨address, hnode⟩) hcall.1

/-- A node is reported the same without the comments below it. -/
theorem isReported_withoutComments {site site' : Site}
    (hsite : site.isReference = site'.isReference) :
    isReported context site node.withoutComments = isReported context site' node := by
  simp only [isReported, isBareCall, TokenStream.previous?, TokenStream.next?, hsite,
    Node.kind_withoutComments, Node.text_withoutComments, Node.start_withoutComments,
    Node.stop_withoutComments]

theorem violation_withoutComments (context : Context) (node : Node) :
    violation context node.withoutComments = violation context node := by
  simp only [violation, Node.text_withoutComments, Node.start_withoutComments]

/-- If a walk reports the same below each child that is no comment, it reports the same below
the frames of the node. -/
theorem flatMap_framesBelow_withoutComments (h : node.CodeApart) (checked : Bool)
    (ih : ∀ child ∈ node.children, child.isComment = false → ∀ site site' : Site,
      site.isReference = site'.isReference →
        Frame.reports context ⟨child.withoutComments, site, checked⟩ =
          Frame.reports context ⟨child, site', checked⟩) :
    (framesBelow node.withoutComments checked).flatMap (Frame.reports context) =
      (framesBelow node checked).flatMap (Frame.reports context) := by
  have hfield : (fun child : Node => child.field == some "name") ∘ Node.withoutComments =
      fun child => child.field == some "name" := by
    funext child
    simp
  have hname : ∀ child, node.children.find? ((fun child : Node => child.field == some "name") ∘
      Node.withoutComments) = some child → (!child.isComment) = true := by
    intro child hchild
    rw [hfield] at hchild
    rw [h.commentsApart.name child hchild]
    rfl
  have hmem : ∀ child ∈ markFirst (·.field == some "name") node.children,
      child.1 ∈ node.children := by
    intro child hchild
    rw [← map_zipIdx_findIdx?] at hchild
    obtain ⟨⟨child, i⟩, hi, rfl⟩ := List.mem_map.mp hchild
    exact List.fst_mem_of_mem_zipIdx hi
  rw [flatMap_framesBelow, flatMap_framesBelow, Node.children_withoutComments,
    markFirst_map_filter hname, hfield]
  refine flatMap_map_filter (fun child hchild hout => ?_) fun child hchild hin => ?_
  · have hcomment : child.1.isComment = true := by simpa using hout
    have hnone := h.commentsApart.noIdentifier child.1 (hmem child hchild) hcomment
    rw [reports_eq_nil hnone, ite_self]
  · rw [Scope.hides_withoutComments, ih child.1 (hmem child hchild) (by simpa using hin) _
      ⟨some node, child.2⟩ (by simp [Site.isReference])]

/-- A walk reports the same below a node without the comments in it. -/
theorem reports_withoutComments (h : node.CodeApart) {site site' : Site}
    (hsite : site.isReference = site'.isReference) (checked : Bool) :
    Frame.reports context ⟨node.withoutComments, site, checked⟩ =
      Frame.reports context ⟨node, site', checked⟩ := by
  induction node using Node.induction generalizing site site' checked with
  | step node ih =>
    have hclassify := Scope.classify_withoutComments context.source h.commentsApart
    cases hentered : enter checked (Scope.classify context.source node) with
    | none =>
      have hleft : enter checked (Scope.classify context.source node.withoutComments) = none := by
        rw [hclassify, hentered]
      exact (Frame.reports_of_pruned hleft).trans (Frame.reports_of_pruned hentered).symm
    | some below =>
      have hleft : enter checked (Scope.classify context.source node.withoutComments) =
          some below := by
        rw [hclassify, hentered]
      refine (Frame.reports_of_entered hleft).trans
        (Eq.trans ?_ (Frame.reports_of_entered hentered).symm)
      rw [isReported_withoutComments hsite, violation_withoutComments]
      congr 1
      exact flatMap_framesBelow_withoutComments h below fun child hchild hcode _ _ hsites =>
        ih child hchild (h.of_mem_children hchild hcode) hsites below

/-- A scan reports the same in a tree and in the tree without its comments. -/
theorem scan_withoutComments (parsed : ParsedSource) (config : RuleConfig)
    (h : parsed.root.CodeApart) :
    scan { parsed with root := parsed.root.withoutComments } config = scan parsed config := by
  have hcontext : Context.ofParsed { parsed with root := parsed.root.withoutComments } config =
      Context.ofParsed parsed config := by
    rw [Context.ofParsed, Context.ofParsed, TokenStream.ofNode_withoutComments parsed.source h]
  rw [scan_eq_reports, scan_eq_reports, hcontext]
  exact reports_withoutComments h rfl false

/-- A body that should give a view, with a comment before its type and one in a bare call. -/
def commentedCall : ParsedSource where
  path := "a"
  source := ⟨"v/**/:some View\x7bf/**/()\x7d".toUTF8.data⟩
  root :=
    ⟨"source_file", 0, 24, none,
      [⟨"property_declaration", 0, 24, none,
        [⟨"simple_identifier", 0, 1, some "name", []⟩,
         ⟨"multiline_comment", 1, 5, none, []⟩,
         ⟨"type_annotation", 5, 15, none, []⟩,
         ⟨"\x7b", 15, 16, none, []⟩,
         ⟨"call_expression", 16, 23, none,
          [⟨"simple_identifier", 16, 17, none, []⟩,
           ⟨"multiline_comment", 17, 21, none, [⟨"*/", 19, 21, none, []⟩]⟩,
           ⟨"(", 21, 22, none, []⟩,
           ⟨")", 22, 23, none, []⟩]⟩,
         ⟨"\x7d", 23, 24, none, []⟩]⟩]⟩
  hasErrors := false

/-- The scan of a call with a comment in it, and without. -/
theorem scan_withoutComments_commentedCall :
    commentedCall.root.CodeApart ∧ commentedCall.root.preorder.length = 13 ∧
      commentedCall.root.withoutComments.preorder.length = 10 ∧
      scan { commentedCall with root := commentedCall.root.withoutComments }
        { additionalModifiers := ["f"] } =
      scan commentedCall { additionalModifiers := ["f"] } :=
  ⟨by decide, rfl, rfl, scan_withoutComments commentedCall _ (by decide)⟩

end LeadingDot.Scan
