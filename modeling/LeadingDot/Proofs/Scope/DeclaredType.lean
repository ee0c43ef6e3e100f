import LeadingDot.Proofs.Text.Trim
import LeadingDot.Proofs.Tree.Source
import LeadingDot.Scope
import Mathlib.Data.List.Basic

/-!
# Declared types

A function states its type between an arrow and its body, a property behind a colon. A function
reads its type from the first to the last node there that is no comment. A property reads all
that stands between the colon and the end of the type, so the two agree as long as the type
comes first. A comment before the type of a property is read as a part of the type: the body
is then never checked.
-/

namespace LeadingDot.Scope

open Text (isBlank trim)

variable {source : Source} {nodes : List Node} {node first last function property : Node}

/-- The nodes of a type among comments. -/
def typeParts (nodes : List Node) : List Node :=
  nodes.filter (!·.isComment)

/-- The text of a type among comments, without those before and after it. -/
def typeText? (source : Source) (nodes : List Node) : Option (List Char) :=
  match (typeParts nodes).head?, (typeParts nodes).getLast? with
  | some first, some last => (source.text? first.start last.stop).map trim
  | _, _ => none

/-- Comments and the nodes of a type as they follow each other in a source. A comment starts
with a slash, and a type does not start with a colon. -/
structure TypeAmongComments (source : Source) (nodes : List Node) : Prop where
  start_le_stop : ∀ node ∈ nodes, node.start ≤ node.stop
  inOrder : nodes.Pairwise fun node next => node.stop ≤ next.start
  slash : ∀ node ∈ nodes, node.isComment = true →
    node.start + 1 ≤ node.stop ∧ source.text? node.start (node.start + 1) = some ['/']
  colonless : ∀ text, typeText? source nodes ≠ some (':' :: text)

/-- A function with a type among comments between its arrow and its body. -/
structure FunctionCarries (function : Node) (nodes : List Node) : Prop where
  kind_eq : function.kind = "function_declaration"
  children_eq : ∃ before arrow after, function.children = before ++ arrow :: (nodes ++ after) ∧
    (∀ child ∈ before, child.kind ≠ "->") ∧ arrow.kind = "->" ∧
    (∀ child ∈ nodes, child.kind ∉ returnTypeEnds) ∧
    ∀ body ∈ after.head?, body.kind ∈ returnTypeEnds

/-- A property with a type among comments behind the colon of its first binding. The node of
the type starts with the colon and ends with the type, so that comments after the type may
also stand beside it. -/
structure PropertyCarries (source : Source) (property : Node) (nodes : List Node) : Prop where
  kind_eq : property.kind = "property_declaration"
  children_eq : ∃ before annotation inside outside after colon last,
    property.children = before ++ annotation :: (outside ++ after) ∧
    (∀ child ∈ before, child.kind ≠ "," ∧ child.kind ≠ "type_annotation") ∧
    annotation.kind = "type_annotation" ∧ annotation.children = colon :: inside ∧
    nodes = inside ++ outside ∧ (∀ child ∈ outside, child.isComment = true) ∧
    annotation.start = colon.start ∧ colon.text? source = some [':'] ∧
    (typeParts nodes).getLast? = some last ∧ annotation.stop = last.stop ∧
    ∀ first ∈ nodes.head?, ∃ gap, source.text? colon.stop first.start = some gap ∧
      ∀ c ∈ gap, isBlank c = true

/-- A function reads its type from the nodes between its arrow and its body. -/
theorem returnTypeNodes_eq (h : FunctionCarries function nodes) :
    returnTypeNodes function = typeParts nodes := by
  obtain ⟨before, arrow, after, hchildren, hbefore, harrow, hnodes, hafter⟩ := h.children_eq
  have hdrop : (function.children.dropWhile (·.kind != "->")).drop 1 = nodes ++ after := by
    rw [hchildren, List.dropWhile_append_of_pos (by simpa using hbefore),
      List.dropWhile_cons_of_neg (by simp [harrow])]
    rfl
  have hend : after.takeWhile (fun child => !returnTypeEnds.contains child.kind) = [] := by
    cases after with
    | nil => rfl
    | cons body rest => exact List.takeWhile_cons_of_neg (by simpa using hafter body rfl)
  have htake : (nodes ++ after).takeWhile (fun child => !returnTypeEnds.contains child.kind) =
      nodes := by
    rw [List.takeWhile_append_of_pos (by simpa using hnodes), hend, List.append_nil]
  rw [returnTypeNodes, hdrop, htake, typeParts]

theorem classify_function (h : FunctionCarries function nodes) :
    classify source function = ofDeclaredType (typeText? source nodes) := by
  have htype : returnType? source function = typeText? source nodes := by
    have hnodes := returnTypeNodes_eq h
    unfold returnType?
    generalize returnTypeNodes function = parts at hnodes ⊢
    subst hnodes
    rfl
  rw [classify, h.kind_eq, ← htype]
  rfl

/-- Between a colon and the end of the text a colon is no part of what is read. -/
theorem trim_dropWhile_colon {text : List Char} (h : text.head? ≠ some ':') :
    trim ((trim (':' :: text)).dropWhile (· == ':')) = trim text := by
  have hcolon : isBlank ':' = false := by decide
  have htrim : trim (':' :: text) = ':' :: Text.trimEnd text :=
    Text.trim_append_cons hcolon [] text
  have hkept : (Text.trimEnd text).dropWhile (· == ':') = Text.trimEnd text := by
    obtain ⟨blanks, hsplit, -⟩ := Text.exists_append_trimEnd text
    cases hend : Text.trimEnd text with
    | nil => rfl
    | cons c rest =>
      rw [hend] at hsplit
      rw [hsplit, List.cons_append, List.head?_cons] at h
      exact List.dropWhile_cons_of_neg (by simpa using h)
  rw [htrim, List.dropWhile_cons_of_pos (by simp), hkept, Text.trim_trimEnd]

/-- Behind blanks a text that does not start with a colon is read without the colon before
the blanks. -/
theorem trim_dropWhile_colon_blank {gap text : List Char} (hgap : ∀ c ∈ gap, isBlank c = true)
    (htext : text.head? ≠ some ':') :
    trim ((trim (':' :: (gap ++ text))).dropWhile (· == ':')) = trim text := by
  have hhead : (gap ++ text).head? ≠ some ':' := by
    cases gap with
    | nil => exact htext
    | cons c gap =>
      rintro heq
      obtain rfl : c = ':' := Option.some.inj heq
      exact absurd (hgap ':' List.mem_cons_self) (by decide)
  rw [trim_dropWhile_colon hhead, Text.trim_blank_append hgap]

namespace TypeAmongComments

theorem last_mem (hlast : (typeParts nodes).getLast? = some last) :
    last ∈ nodes ∧ last.isComment = false := by
  have hmem := List.mem_filter.mp (List.mem_of_getLast? hlast)
  simpa using hmem

/-- The first node starts before the end of any node. -/
theorem start_le (h : TypeAmongComments source nodes) (hfirst : nodes.head? = some first)
    (hnode : node ∈ nodes) : first.start ≤ node.stop := by
  obtain ⟨rest, rfl⟩ := List.head?_eq_some_iff.mp hfirst
  have hrange := h.start_le_stop first List.mem_cons_self
  rcases List.mem_cons.mp hnode with rfl | hrest
  · exact hrange
  · have hbefore := (List.pairwise_cons.mp h.inOrder).1 node hrest
    have hnode := h.start_le_stop node hnode
    omega

/-- A comment at the start ends before the end of the type. -/
theorem stop_le (h : TypeAmongComments source nodes) (hfirst : nodes.head? = some first)
    (hcomment : first.isComment = true) (hlast : (typeParts nodes).getLast? = some last) :
    first.stop ≤ last.stop := by
  obtain ⟨rest, rfl⟩ := List.head?_eq_some_iff.mp hfirst
  obtain ⟨hmem, hcode⟩ := last_mem hlast
  have hrange := h.start_le_stop last hmem
  rcases List.mem_cons.mp hmem with rfl | hrest
  · exact absurd (hcomment.symm.trans hcode) (by decide)
  · have hbefore := (List.pairwise_cons.mp h.inOrder).1 last hrest
    omega

/-- A type that comes first is the text from the first node on. -/
theorem typeText?_eq (hfirst : nodes.head? = some first) (hcode : first.isComment = false)
    (hlast : (typeParts nodes).getLast? = some last) :
    typeText? source nodes = (source.text? first.start last.stop).map trim := by
  obtain ⟨rest, rfl⟩ := List.head?_eq_some_iff.mp hfirst
  have hhead : (typeParts (first :: rest)).head? = some first := by
    rw [typeParts, List.filter_cons_of_pos (by simp [hcode]), List.head?_cons]
  rw [typeText?, hhead, hlast]

end TypeAmongComments

/-- A property reads its type from the end of the colon to the end of the type. -/
theorem exists_declaredType? (h : PropertyCarries source property nodes)
    (hnodes : TypeAmongComments source nodes) :
    ∃ first last gap, nodes.head? = some first ∧ (typeParts nodes).getLast? = some last ∧
      (∀ c ∈ gap, isBlank c = true) ∧
      declaredType? source property = (source.text? first.start last.stop).map fun text =>
        trim ((trim (':' :: (gap ++ text))).dropWhile (· == ':')) := by
  obtain ⟨before, annotation, inside, outside, after, colon, last, hchildren, hbefore, hkind, -,
    -, -, hstart, hcolon, hlast, hstop, hgap⟩ := h.children_eq
  have hlastmem := (TypeAmongComments.last_mem hlast).1
  obtain ⟨first, rest, rfl⟩ := List.exists_cons_of_ne_nil (List.ne_nil_of_mem hlastmem)
  obtain ⟨gap, hgaptext, hblank⟩ := hgap first rfl
  refine ⟨first, last, gap, rfl, hlast, hblank, ?_⟩
  have hannotation : annotationNode? property = some annotation := by
    have hcomma : ∀ child ∈ before, (child.kind != ",") = true := fun child hchild =>
      bne_iff_ne.mpr (hbefore child hchild).1
    have hother : before.find? (·.kind == "type_annotation") = none :=
      List.find?_eq_none.mpr fun child hchild => by simpa using (hbefore child hchild).2
    rw [annotationNode?, hchildren, List.takeWhile_append_of_pos hcomma,
      List.takeWhile_cons_of_pos (by simp [hkind]), List.find?_append, hother,
      List.find?_cons_of_pos (by simp [hkind])]
    rfl
  have hend : first.start ≤ last.stop := hnodes.start_le rfl hlastmem
  have hgaple := Source.le_of_text? hgaptext
  have htext : annotation.text? source =
      (source.text? first.start last.stop).map fun text => ':' :: (gap ++ text) := by
    rw [Node.text?, hstart, hstop, Source.text?_append hcolon (by omega),
      Source.text?_append hgaptext hend, Option.map_map]
    rfl
  rw [declaredType?, hannotation, Option.bind_some, htext, Option.map_map]
  rfl

/-- If the type comes first, a property reads the same type as a function. -/
theorem declaredType?_of_type_first (h : PropertyCarries source property nodes)
    (hnodes : TypeAmongComments source nodes)
    (hcode : ∀ first ∈ nodes.head?, first.isComment = false) :
    declaredType? source property = typeText? source nodes := by
  obtain ⟨first, last, gap, hfirst, hlast, hgap, hdeclared⟩ := exists_declaredType? h hnodes
  have htype : typeText? source nodes = (source.text? first.start last.stop).map trim :=
    TypeAmongComments.typeText?_eq hfirst (hcode first hfirst) hlast
  rw [hdeclared, htype]
  refine Option.map_congr fun text htext => trim_dropWhile_colon_blank hgap ?_
  intro hcolon
  obtain ⟨rest, rfl⟩ := List.head?_eq_some_iff.mp hcolon
  rw [htext, Option.map_some] at htype
  exact hnodes.colonless _ (htype.trans
    (congrArg some (Text.trim_append_cons (by decide : isBlank ':' = false) [] rest)))

/-- A comment before the type of a property makes the text something else. -/
theorem classify_of_comment_first (h : PropertyCarries source property nodes)
    (hnodes : TypeAmongComments source nodes)
    (hcomment : ∃ first, nodes.head? = some first ∧ first.isComment = true) :
    classify source property = .enterOpaque := by
  obtain ⟨first, last, gap, hfirst, hlast, hgap, hdeclared⟩ := exists_declaredType? h hnodes
  obtain ⟨first, hfirst', hcomment⟩ := hcomment
  obtain rfl := Option.some.inj (hfirst.symm.trans hfirst')
  obtain ⟨hwide, hslash⟩ := hnodes.slash first (List.mem_of_head? hfirst) hcomment
  have hend := hnodes.stop_le hfirst hcomment hlast
  have hdeclared : declaredType? source property ≠ some markerType.toList := by
    rw [hdeclared, Source.text?_append hslash (by omega), Option.map_map]
    intro hmarker
    obtain ⟨text, -, htext⟩ := Option.map_eq_some_iff.mp hmarker
    have hhead : (['/'] ++ text).head? ≠ some ':' := by simp
    rw [Function.comp_apply, trim_dropWhile_colon_blank hgap hhead, List.singleton_append] at htext
    have hkept := Text.trim_append_cons (by decide : isBlank '/' = false) [] text
    rw [List.nil_append] at hkept
    rw [hkept] at htext
    cases htext
  rw [classify, h.kind_eq]
  exact if_neg hdeclared

theorem classify_of_type_first (h : PropertyCarries source property nodes)
    (hnodes : TypeAmongComments source nodes)
    (hcode : ∀ first ∈ nodes.head?, first.isComment = false) :
    classify source property = ofDeclaredType (typeText? source nodes) := by
  rw [← declaredType?_of_type_first h hnodes hcode, classify, h.kind_eq]
  rfl

/-- How functions and properties are told that are declared to give a view. -/
structure RecognisesType (source : Source) (nodes : List Node) : Prop where
  /-- A function is checked if its type is the marker, comments before and after it left out. -/
  function_eq : ∀ function, FunctionCarries function nodes →
    classify source function =
      if typeText? source nodes = some "some View".toList then .enterChecked else .enterOpaque
  /-- So is a property, if no comment comes before its type. -/
  property_eq : ∀ property, PropertyCarries source property nodes →
    (∀ first ∈ nodes.head?, first.isComment = false) →
    classify source property =
      if typeText? source nodes = some "some View".toList then .enterChecked else .enterOpaque
  /-- With a comment before its type a property is never checked. -/
  property_eq_opaque : ∀ property, PropertyCarries source property nodes →
    (∃ first, nodes.head? = some first ∧ first.isComment = true) →
    classify source property = .enterOpaque
  /-- A function and a property of the same type do the same to the walk wherever they stand,
  if no comment comes before the type of the property. -/
  alike : ∀ function, FunctionCarries function nodes →
    ∀ other property moved, TypeAmongComments other moved →
      PropertyCarries other property moved → typeText? other moved = typeText? source nodes →
      (∀ first ∈ moved.head?, first.isComment = false) →
      classify other property = classify source function

/-- Functions and properties are told by their types, unless a comment comes before the type
of a property. -/
theorem recognisesType (h : TypeAmongComments source nodes) : RecognisesType source nodes where
  function_eq := fun _ hfunction => classify_function hfunction
  property_eq := fun _ hproperty hcode => classify_of_type_first hproperty h hcode
  property_eq_opaque := fun _ hproperty hcomment => classify_of_comment_first hproperty h hcomment
  alike := by
    intro function hfunction other property moved hmoved hproperty hsame hcode
    rw [classify_function hfunction, classify_of_type_first hproperty hmoved hcode, hsame]

/-- A function and two properties that give views, with a comment before the type of the
function and of the first property and behind the type of the second. -/
def commentedTypes : Source :=
  ⟨("func a() -> /* b */ some View \x7b\x7d\n" ++ "var c: /* b */ some View \x7b\x7d\n" ++
    "var d: some View /* b */ \x7b\x7d\n").toUTF8.data⟩

/-- The comment and the type of the function. -/
def functionNodes : List Node :=
  [⟨"multiline_comment", 12, 19, none, []⟩, ⟨"opaque_type", 20, 29, some "name", []⟩]

/-- The comment and the type of the first property. -/
def hiddenNodes : List Node :=
  [⟨"multiline_comment", 40, 47, none, []⟩, ⟨"opaque_type", 48, 57, some "name", []⟩]

/-- The type of the second property and the comment behind it. -/
def plainNodes : List Node :=
  [⟨"opaque_type", 68, 77, some "name", []⟩, ⟨"multiline_comment", 78, 85, none, []⟩]

/-- The function. -/
def viewFunction : Node :=
  ⟨"function_declaration", 0, 32, none,
    [⟨"func", 0, 4, none, []⟩, ⟨"simple_identifier", 5, 6, some "name", []⟩,
      ⟨"(", 6, 7, none, []⟩, ⟨")", 7, 8, none, []⟩, ⟨"->", 9, 11, none, []⟩] ++
      functionNodes ++ [⟨"function_body", 30, 32, some "body", []⟩]⟩

/-- The first property. -/
def hiddenProperty : Node :=
  ⟨"property_declaration", 33, 60, none,
    [⟨"value_binding_pattern", 33, 36, none, []⟩, ⟨"pattern", 37, 38, some "name", []⟩,
      ⟨"type_annotation", 38, 57, none, ⟨":", 38, 39, none, []⟩ :: hiddenNodes⟩,
      ⟨"computed_property", 58, 60, some "computed_value", []⟩]⟩

/-- The second property. -/
def plainProperty : Node :=
  ⟨"property_declaration", 61, 88, none,
    [⟨"value_binding_pattern", 61, 64, none, []⟩, ⟨"pattern", 65, 66, some "name", []⟩,
      ⟨"type_annotation", 66, 77, none, ⟨":", 66, 67, none, []⟩ :: plainNodes.take 1⟩] ++
      plainNodes.drop 1 ++ [⟨"computed_property", 86, 88, some "computed_value", []⟩]⟩

/-- All three are declared to give a view. -/
theorem typeText?_commentedTypes : ∀ nodes ∈ [functionNodes, hiddenNodes, plainNodes],
    typeText? commentedTypes nodes = some "some View".toList := by
  decide +kernel

theorem typeAmongComments_commentedTypes : ∀ nodes ∈ [functionNodes, hiddenNodes, plainNodes],
    TypeAmongComments commentedTypes nodes := by
  intro nodes hnodes
  have hplace : (∀ node ∈ nodes, node.start ≤ node.stop) ∧
      nodes.Pairwise (fun node next => node.stop ≤ next.start) ∧
      ∀ node ∈ nodes, node.isComment = true → node.start + 1 ≤ node.stop ∧
        commentedTypes.text? node.start (node.start + 1) = some ['/'] := by
    revert nodes
    decide +kernel
  obtain ⟨hrange, horder, hslash⟩ := hplace
  refine ⟨hrange, horder, hslash, fun text htext => ?_⟩
  rw [typeText?_commentedTypes nodes hnodes] at htext
  cases htext

theorem functionCarries_viewFunction : FunctionCarries viewFunction functionNodes :=
  ⟨rfl, viewFunction.children.take 4, ⟨"->", 9, 11, none, []⟩,
    [⟨"function_body", 30, 32, some "body", []⟩], rfl, by decide, rfl, by decide, by decide⟩

theorem propertyCarries_hiddenProperty :
    PropertyCarries commentedTypes hiddenProperty hiddenNodes :=
  ⟨rfl, hiddenProperty.children.take 2,
    ⟨"type_annotation", 38, 57, none, ⟨":", 38, 39, none, []⟩ :: hiddenNodes⟩,
    hiddenNodes, [], _, ⟨":", 38, 39, none, []⟩, _, rfl, by decide, rfl, rfl, rfl, by decide, rfl,
    by decide +kernel, rfl, rfl, by
      rintro _ ⟨⟩
      exact ⟨[' '], by decide +kernel, List.forall_mem_singleton.mpr rfl⟩⟩

theorem propertyCarries_plainProperty : PropertyCarries commentedTypes plainProperty plainNodes :=
  ⟨rfl, plainProperty.children.take 2,
    ⟨"type_annotation", 66, 77, none, ⟨":", 66, 67, none, []⟩ :: plainNodes.take 1⟩,
    plainNodes.take 1, plainNodes.drop 1, _, ⟨":", 66, 67, none, []⟩, _, rfl, by decide, rfl, rfl,
    rfl, by decide, rfl, by decide +kernel, rfl, rfl, by
      rintro _ ⟨⟩
      exact ⟨[' '], by decide +kernel, List.forall_mem_singleton.mpr rfl⟩⟩

/-- The function and the property with a comment behind its type are both checked. -/
theorem recognisesType_commentedTypes :
    TypeAmongComments commentedTypes functionNodes ∧
      RecognisesType commentedTypes functionNodes ∧
      classify commentedTypes plainProperty = classify commentedTypes viewFunction ∧
      classify commentedTypes viewFunction = .enterChecked := by
  have hfunction := typeAmongComments_commentedTypes functionNodes (by simp)
  have hrecognises := recognisesType hfunction
  refine ⟨hfunction, hrecognises, ?_, by decide +kernel⟩
  refine hrecognises.alike _ functionCarries_viewFunction _ _ plainNodes
    (typeAmongComments_commentedTypes _ (by simp))
    propertyCarries_plainProperty ?_ ?_
  · rw [typeText?_commentedTypes _ (by simp), typeText?_commentedTypes _ (by simp)]
  · rintro _ ⟨⟩
    rfl

/-- A comment before the type switches the check off for a property, though not for a function
of the same type. -/
theorem comment_hides_type :
    FunctionCarries viewFunction functionNodes ∧
      PropertyCarries commentedTypes hiddenProperty hiddenNodes ∧
      TypeAmongComments commentedTypes functionNodes ∧
      TypeAmongComments commentedTypes hiddenNodes ∧
      typeText? commentedTypes functionNodes = some "some View".toList ∧
      typeText? commentedTypes hiddenNodes = some "some View".toList ∧
      classify commentedTypes viewFunction = .enterChecked ∧
      classify commentedTypes hiddenProperty = .enterOpaque :=
  ⟨functionCarries_viewFunction, propertyCarries_hiddenProperty,
    typeAmongComments_commentedTypes _ (by simp), typeAmongComments_commentedTypes _ (by simp),
    typeText?_commentedTypes _ (by simp), typeText?_commentedTypes _ (by simp),
    by decide +kernel, by decide +kernel⟩

end LeadingDot.Scope
