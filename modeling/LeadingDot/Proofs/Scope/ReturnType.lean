import LeadingDot.Proofs.Scope.Comments
import LeadingDot.Proofs.Scope.DeclaredType

/-!
# Return types

The scope of a function hangs on a segment of its children only: those behind the first arrow
and before the body. Of these the first and the last that are no comments mark a range of the
source, and the function is checked if the bytes there spell the marker type between blanks.
Comments, what stands before the arrow and what stands from the body on make no difference.
-/

namespace LeadingDot.Scope

variable {source : Source} {function : Node} {children : List Node}

/-- A function has a type between its first arrow and its body that spells the marker: the
bytes from the first node to the last that is no comment are in the source and are those of a
text that is the marker between blanks. -/
def GivesView (source : Source) (function : Node) : Prop :=
  ∃ nodes, FunctionCarries function nodes ∧
    ∃ first last text, (nodes.filter (!·.isComment)).head? = some first ∧
      (nodes.filter (!·.isComment)).getLast? = some last ∧
      first.start ≤ last.stop ∧ last.stop ≤ source.bytes.size ∧
      source.bytes.extract first.start last.stop = (String.ofList text).toUTF8.data ∧
      Text.trim text = "some View".toList

theorem ofDeclaredType_eq_enterChecked_iff {declared : Option (List Char)} :
    ofDeclaredType declared = .enterChecked ↔ declared = some "some View".toList := by
  rw [ofDeclaredType, markerType]
  split
  · next hmarker => exact iff_of_true rfl hmarker
  · next hother => exact iff_of_false (by decide) hother

theorem classify_of_function (hkind : function.kind = "function_declaration") :
    classify source function = ofDeclaredType (returnType? source function) := by
  rw [classify, hkind]
  rfl

/-- A function with an arrow has a segment of children between the arrow and the body. -/
theorem exists_functionCarries (hkind : function.kind = "function_declaration")
    (harrow : ∃ child ∈ function.children, child.kind = "->") :
    ∃ nodes, FunctionCarries function nodes := by
  obtain ⟨child, hchild, harrow⟩ := harrow
  have hfind : (function.children.find? (·.kind == "->")).isSome = true :=
    List.find?_isSome.mpr ⟨child, hchild, by simp [harrow]⟩
  obtain ⟨arrow, hfind⟩ := Option.isSome_iff_exists.mp hfind
  obtain ⟨harrow, before, behind, hchildren, hbefore⟩ := List.find?_eq_some_iff_append.mp hfind
  refine ⟨behind.takeWhile fun child => !returnTypeEnds.contains child.kind, hkind, before, arrow,
    behind.dropWhile fun child => !returnTypeEnds.contains child.kind, ?_, ?_, ?_, ?_, ?_⟩
  · rw [List.takeWhile_append_dropWhile, hchildren]
  · simpa using hbefore
  · simpa using harrow
  · intro child hchild
    simpa using List.mem_takeWhile_imp hchild
  · intro body hbody
    have hend := List.head?_dropWhile_not
      (fun child : Node => !returnTypeEnds.contains child.kind) behind
    rw [hbody] at hend
    simpa using hend

theorem returnTypeNodes_of_arrowless (h : ∀ child ∈ function.children, child.kind ≠ "->") :
    returnTypeNodes function = [] := by
  rw [returnTypeNodes, List.dropWhile_eq_nil_iff.mpr (by simpa using h)]
  rfl

/-- The type among comments has a text just when its bytes are in the source and spell it. -/
theorem typeText?_eq_some_iff {nodes : List Node} {type : List Char} :
    typeText? source nodes = some type ↔
      ∃ first last text, (typeParts nodes).head? = some first ∧
        (typeParts nodes).getLast? = some last ∧
        first.start ≤ last.stop ∧ last.stop ≤ source.bytes.size ∧
        source.bytes.extract first.start last.stop = (String.ofList text).toUTF8.data ∧
        Text.trim text = type := by
  constructor
  · intro h
    unfold typeText? at h
    split at h
    · next first last hfirst hlast =>
      obtain ⟨text, htext, htype⟩ := Option.map_eq_some_iff.mp h
      obtain ⟨hstart, hstop, hbytes⟩ := Source.text?_eq_some_iff.mp htext
      exact ⟨first, last, text, hfirst, hlast, hstart, hstop, hbytes, htype⟩
    · cases h
  · rintro ⟨first, last, text, hfirst, hlast, hstart, hstop, hbytes, rfl⟩
    rw [typeText?, hfirst, hlast]
    exact congrArg (Option.map Text.trim)
      (Source.text?_eq_some_iff.mpr ⟨hstart, hstop, hbytes⟩)

/-- A function is checked just when its type spells the marker. -/
theorem classify_eq_enterChecked_iff (hkind : function.kind = "function_declaration") :
    classify source function = .enterChecked ↔ GivesView source function := by
  constructor
  · intro h
    by_cases harrow : ∃ child ∈ function.children, child.kind = "->"
    · obtain ⟨nodes, hnodes⟩ := exists_functionCarries hkind harrow
      rw [classify_function hnodes, ofDeclaredType_eq_enterChecked_iff] at h
      exact ⟨nodes, hnodes, typeText?_eq_some_iff.mp h⟩
    · have hnone : returnTypeNodes function = [] :=
        returnTypeNodes_of_arrowless fun child hchild heq => harrow ⟨child, hchild, heq⟩
      rw [classify_of_function hkind, ofDeclaredType_eq_enterChecked_iff, returnType?, hnone] at h
      cases h
  · rintro ⟨nodes, hnodes, htext⟩
    rw [classify_function hnodes, ofDeclaredType_eq_enterChecked_iff]
    exact typeText?_eq_some_iff.mpr htext

/-- A function that is not checked is entered nonetheless. -/
theorem classify_eq_enterOpaque (hkind : function.kind = "function_declaration")
    (h : ¬ GivesView source function) : classify source function = .enterOpaque := by
  rw [← classify_eq_enterChecked_iff hkind, classify_of_function hkind,
    ofDeclaredType_eq_enterChecked_iff] at h
  rw [classify_of_function hkind]
  exact if_neg h

/-- A function is told by the nodes that its type is read from. -/
theorem classify_congr (hkind : function.kind = "function_declaration")
    (h : returnTypeNodes { function with children } = returnTypeNodes function) :
    classify source { function with children } = classify source function := by
  have htype : returnType? source { function with children } = returnType? source function := by
    simp only [returnType?, h]
  have hother : { function with children }.kind = "function_declaration" := hkind
  rw [classify_of_function hkind, classify_of_function hother, htype]

theorem returnTypeNodes_of_filter_eq
    (h : children.filter (!·.isComment) = function.children.filter (!·.isComment)) :
    returnTypeNodes { function with children } = returnTypeNodes function := by
  rw [← returnTypeNodes_filter function, ← h]
  exact (returnTypeNodes_filter { function with children }).symm

/-- The children before the first arrow are passed over. -/
theorem returnTypeNodes_append {before rest : List Node}
    (hbefore : ∀ child ∈ before, child.kind ≠ "->") :
    returnTypeNodes { function with children := before ++ rest } =
      returnTypeNodes { function with children := rest } := by
  have hdrop : (before ++ rest).dropWhile (·.kind != "->") = rest.dropWhile (·.kind != "->") :=
    List.dropWhile_append_of_pos (by simpa using hbefore)
  simp only [returnTypeNodes, hdrop]

/-- A run that ends before a list is not changed by the list. -/
theorem takeWhile_append_of_head? {α : Type} {p : α → Bool} {ys : List α}
    (h : ∀ y ∈ ys.head?, p y = false) (xs : List α) :
    (xs ++ ys).takeWhile p = xs.takeWhile p := by
  induction xs with
  | nil =>
    cases ys with
    | nil => rfl
    | cons y ys => exact List.takeWhile_cons_of_neg (by simpa using h y rfl)
  | cons x xs ih => rw [List.cons_append, List.takeWhile_cons, List.takeWhile_cons, ih]

/-- So are those from the body on, if an arrow comes before the body. -/
theorem returnTypeNodes_append_body {front after : List Node}
    (harrow : ∃ child ∈ front, child.kind = "->")
    (hafter : ∀ body ∈ after.head?, body.kind ∈ returnTypeEnds) :
    returnTypeNodes { function with children := front ++ after } =
      returnTypeNodes { function with children := front } := by
  have hne : front.dropWhile (·.kind != "->") ≠ [] := by
    obtain ⟨child, hchild, harrow⟩ := harrow
    intro hnil
    simpa [harrow] using List.dropWhile_eq_nil_iff.mp hnil child hchild
  obtain ⟨arrow, behind, hfront⟩ := List.exists_cons_of_ne_nil hne
  have hdrop : (front ++ after).dropWhile (·.kind != "->") = arrow :: (behind ++ after) := by
    rw [List.dropWhile_append, hfront]
    rfl
  have htake : (behind ++ after).takeWhile (fun child => !returnTypeEnds.contains child.kind) =
      behind.takeWhile fun child => !returnTypeEnds.contains child.kind :=
    takeWhile_append_of_head? (by simpa using hafter) behind
  simp only [returnTypeNodes, hdrop, hfront, List.drop_succ_cons, List.drop_zero, htake]

/-- What the scope of a function hangs on. -/
structure ReadsReturnType (source : Source) (function : Node) : Prop where
  /-- A function is checked just when the bytes between its arrow and its body, comments at
  both ends left out, spell the marker. -/
  enterChecked_iff : classify source function = .enterChecked ↔ GivesView source function
  /-- Otherwise it is entered and not checked. -/
  enterOpaque : ¬ GivesView source function → classify source function = .enterOpaque
  /-- Comments may be put in or taken out at any place. -/
  comments : ∀ children,
    children.filter (!·.isComment) = function.children.filter (!·.isComment) →
    classify source { function with children } = classify source function
  /-- What stands before the first arrow may be changed, as long as no arrow gets there. -/
  before : ∀ before changed rest, function.children = before ++ rest →
    (∀ child ∈ before, child.kind ≠ "->") → (∀ child ∈ changed, child.kind ≠ "->") →
    classify source { function with children := changed ++ rest } = classify source function
  /-- What stands from the body on may be changed or taken away. -/
  after : ∀ front after changed, function.children = front ++ after →
    (∃ child ∈ front, child.kind = "->") →
    (∀ body ∈ after.head?, body.kind ∈ ["function_body", "type_constraints", "where_clause"]) →
    (∀ body ∈ changed.head?, body.kind ∈ ["function_body", "type_constraints", "where_clause"]) →
    classify source { function with children := front ++ changed } = classify source function

/-- The scope of a function is read from the nodes between its arrow and its body. -/
theorem readsReturnType (source : Source) (hkind : function.kind = "function_declaration") :
    ReadsReturnType source function where
  enterChecked_iff := classify_eq_enterChecked_iff hkind
  enterOpaque := classify_eq_enterOpaque hkind
  comments := fun _ h => classify_congr hkind (returnTypeNodes_of_filter_eq h)
  before := by
    intro before changed rest hchildren hbefore hchanged
    refine classify_congr hkind ?_
    have hsame : returnTypeNodes { function with children := before ++ rest } =
        returnTypeNodes { function with children := rest } := returnTypeNodes_append hbefore
    rw [← hchildren] at hsame
    exact (returnTypeNodes_append hchanged).trans hsame.symm
  after := by
    intro front after changed hchildren harrow hafter hchanged
    refine classify_congr hkind ?_
    have hsame : returnTypeNodes { function with children := front ++ after } =
        returnTypeNodes { function with children := front } :=
      returnTypeNodes_append_body harrow hafter
    rw [← hchildren] at hsame
    exact (returnTypeNodes_append_body harrow hchanged).trans hsame.symm

/-- A function with a comment before its type gives a view. -/
theorem readsReturnType_viewFunction :
    viewFunction.kind = "function_declaration" ∧ ReadsReturnType commentedTypes viewFunction ∧
      GivesView commentedTypes viewFunction := by
  have hkind : viewFunction.kind = "function_declaration" := rfl
  have hread := readsReturnType commentedTypes hkind
  exact ⟨hkind, hread, hread.enterChecked_iff.mp (by decide +kernel)⟩

end LeadingDot.Scope
