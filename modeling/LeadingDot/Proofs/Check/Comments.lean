import LeadingDot.Proofs.Check
import LeadingDot.Proofs.Suppression.Composition
import LeadingDot.Proofs.Suppression.Written
import LeadingDot.Proofs.Text.Encoding

/-!
# Directives in comments

The findings come from the tree of a source, the suppressions from the lines of its text, which
do not tell a comment from a literal that reads like one. A suppression comes from a place in
the bytes that reads as a comment with a directive. Where all these places lie in comments of
the tree, only comments suppress, and without a comment that names the tool a check gives what
the scan gives. A string literal that reads as a comment with a directive suppresses all the
same.
-/

namespace LeadingDot

/-- The name of the tool in a directive, as bytes. -/
def toolName : List UInt8 :=
  Text.Utf8.encode "dotcheck:".toList

theorem toolName_ascii : ∀ b ∈ toolName, b < 0x80 := by
  decide +kernel

theorem ascii_toolName : Text.Utf8.ascii toolName = "dotcheck:".toList := by
  decide +kernel

namespace Suppression

variable {file : String} {number : Nat} {inHeader : Bool} {line : List Char}
  {suppression : Suppression}

/-- A directive as the pattern of a comment takes it from a line: behind the mark come blanks,
the name of the tool and the rest. -/
structure IsTaken (comment : Comment) (gap rest : List Char) : Prop where
  blank : ∀ c ∈ gap, Text.isBlank c = true
  oneLine : '\n' ∉ gap ++ rest
  accepted : comment.pattern.Accepts
    (comment.mark.toList ++ gap ++ "dotcheck:".toList ++ rest)

/-- A line that states a suppression has a directive on it. -/
theorem exists_isTaken_of_ofLine? (hfeed : '\n' ∉ line)
    (h : ofLine? file number inHeader line = some suppression) :
    ∃ before comment gap rest after, line = before ++ comment.mark.toList ++ gap ++
      "dotcheck:".toList ++ (rest ++ after) ∧ IsTaken comment gap rest := by
  obtain ⟨comment, before, used, after, hline, hused⟩ := exists_accepts_of_ofLine? h
  obtain ⟨patterns, hpattern⟩ := comment.exists_pattern_eq
  obtain ⟨gap, rest, rfl, hgap⟩ := exists_of_accepts (hpattern ▸ hused)
  refine ⟨before, comment, gap, rest, after, ?_, hgap, fun hmem => hfeed ?_, hused⟩
  · rw [hline]
    simp only [List.append_assoc]
  · rw [hline]
    simp only [List.mem_append] at hmem ⊢
    tauto

end Suppression

/-- A place in a source that reads as a comment with a directive: the name of the tool stands at
the offset, and the text around it on its line is taken by the pattern of a comment. -/
def Source.DirectiveAt (source : Source) (offset : Nat) : Prop :=
  ∃ before after comment gap rest, source.bytes.toList = before ++ toolName ++ after ∧
    before.length = offset ∧ comment.mark.toList ++ gap <:+ Text.Utf8.decodeLossy before ∧
    rest <+: Text.Utf8.decodeLossy after ∧ Suppression.IsTaken comment gap rest

/-- Whether a node has the name of the tool in its text. -/
def Node.NamesTool (node : Node) (source : Source) : Prop :=
  toolName <:+: (source.bytes.extract node.start node.stop).toList

/-- Whether the name of the tool, if it stands at an offset, lies in a node. -/
def Node.HoldsName (node : Node) (offset : Nat) : Prop :=
  node.start ≤ offset ∧ offset + toolName.length ≤ node.stop

/-- A node that holds the name of the tool has it in its text. -/
theorem Node.HoldsName.namesTool {node : Node} {source : Source} {offset : Nat}
    (h : node.HoldsName offset) (hat : source.DirectiveAt offset) : node.NamesTool source := by
  obtain ⟨before, after, -, -, -, hbytes, rfl, -⟩ := hat
  obtain ⟨hstart, hstop⟩ := h
  have hlength : (before.drop node.start ++ toolName).length ≤ node.stop - node.start := by
    rw [List.length_append, List.length_drop]
    omega
  have hprefix : before.drop node.start ++ toolName <+:
      (source.bytes.toList.drop node.start).take (node.stop - node.start) := by
    rw [List.prefix_take_iff, hbytes, List.append_assoc, List.drop_append_of_le_length hstart]
    exact ⟨⟨after, by simp⟩, hlength⟩
  rw [NamesTool, Array.toList_extract, List.extract_eq_take_drop]
  exact (List.suffix_append _ toolName).isInfix.trans hprefix.isInfix

namespace ParsedSource

variable {parsed : ParsedSource} {config : RuleConfig} {number : Nat} {suppression : Suppression}

/-- A directive that the parser accepts reads as a comment on its line. -/
theorem exists_directiveAt (h : parsed.DirectiveOn number suppression) :
    ∃ offset, parsed.source.DirectiveAt offset ∧
      (parsed.source.position offset).line = number := by
  obtain ⟨above, line, below, hlines, rfl, hread⟩ := h
  obtain ⟨before, after, hbytes, hcount, hline, hbefore, hafter⟩ :=
    Text.exists_of_segments_eq hlines
  have hfeed : '\n' ∉ Text.Utf8.decodeLossy line :=
    mt (Text.Utf8.mem_decodeLossy (by decide : Source.newline < 0x80)).mp hline
  obtain ⟨start, comment, gap, rest, later, hsplit, htaken⟩ :=
    Suppression.exists_isTaken_of_ofLine? hfeed hread
  -- The name is ascii, so its place on the line is a place in the bytes.
  rw [← ascii_toolName] at hsplit
  obtain ⟨xs, ys, rfl, hxs, hys⟩ :=
    Text.Utf8.exists_of_decodeLossy_eq_append_ascii toolName_ascii (by decide) hsplit
  have hsource : parsed.source.bytes.toList = before ++ xs ++ (toolName ++ (ys ++ after)) := by
    rw [hbytes]
    simp only [List.append_assoc]
  -- What is next to the line is ascii too, so the line is decoded there as it is by itself.
  refine ⟨(before ++ xs).length, ⟨before ++ xs, ys ++ after, comment, gap, rest, ?_, rfl, ?_, ?_,
    htaken⟩, ?_⟩
  · rw [hsource, List.append_assoc _ toolName]
  · have hascii : ∀ b ∈ before.getLast?, b < 0x80 := fun b hb =>
      hbefore b hb ▸ (by decide : Source.newline < 0x80)
    rw [Text.Utf8.decodeLossy_append_of_getLast? hascii, hxs, List.append_assoc start]
    exact ⟨Text.Utf8.decodeLossy before ++ start, List.append_assoc ..⟩
  · have hascii : ∀ b ∈ after.head?, b < 0x80 := fun b hb => by
      rcases hafter b hb with rfl | rfl <;> decide
    rw [Text.Utf8.decodeLossy_append_of_head? hascii, hys, List.append_assoc]
    exact List.prefix_append rest _
  · have hnone : xs.count Source.newline = 0 :=
      List.count_eq_zero_of_not_mem fun hmem => hline (by simp [hmem])
    have hcounts : (before ++ xs).count Source.newline = above.length := by
      rw [List.count_append, hcount, hnone, Nat.add_zero]
    simp only [Source.position, Array.toList_extract, List.extract_eq_take_drop, List.drop_zero,
      Nat.sub_zero, hsource, List.take_left, hcounts]

/-- What suppresses a violation reads as a comment on the line that is recorded, unless it
covers the file. -/
theorem exists_directiveAt_of_mem (h : suppression ∈ parsed.suppressions) :
    ∃ offset, parsed.source.DirectiveAt offset ∧ (suppression.coverage = .file ∨
      (parsed.source.position offset).line = suppression.line) := by
  obtain ⟨number, hdirective⟩ := mem_suppressions.mp h
  obtain ⟨offset, hat, hnumber⟩ := exists_directiveAt hdirective
  obtain ⟨above, line, below, -, -, hread⟩ := hdirective
  have hline := (Suppression.place_of_ofLine? hread).2
  refine ⟨offset, hat, ?_⟩
  by_cases hfile : suppression.coverage = .file
  · exact Or.inl hfile
  · rw [if_neg hfile] at hline
    exact Or.inr (hnumber.trans hline.symm)

/-- Whether the name of the tool, if it stands at an offset, lies in a comment of the tree. -/
def InComment (parsed : ParsedSource) (offset : Nat) : Prop :=
  ∃ comment ∈ parsed.root.preorder, comment.isComment = true ∧ comment.HoldsName offset

/-- Whether no comment of the tree names the tool. -/
def CommentsUnnamed (parsed : ParsedSource) : Prop :=
  ∀ comment ∈ parsed.root.preorder, comment.isComment = true → ¬ comment.NamesTool parsed.source

/-- If what reads as a comment is one, comments that do not name the tool hold no directive. -/
theorem suppressions_eq_nil
    (hinside : ∀ offset, parsed.source.DirectiveAt offset → parsed.InComment offset)
    (h : parsed.CommentsUnnamed) : parsed.suppressions = [] := by
  rw [List.eq_nil_iff_forall_not_mem]
  intro suppression hmem
  obtain ⟨offset, hat, -⟩ := exists_directiveAt_of_mem hmem
  obtain ⟨comment, hcomment, hkind, hholds⟩ := hinside offset hat
  exact h comment hcomment hkind (hholds.namesTool hat)

end ParsedSource

/-- How the suppressions of a source go with the comments in its tree. -/
structure OnlyCommentsSuppress (config : RuleConfig) (parsed : ParsedSource) : Prop where
  /-- What suppresses a violation is a directive in a comment. The directive stands on the line
  that is recorded, unless it covers the file. -/
  commented : ∀ found ∈ (check config parsed).suppressed,
    ∃ offset, parsed.source.DirectiveAt offset ∧ parsed.InComment offset ∧
      (found.suppression.coverage = .file ∨
        (parsed.source.position offset).line = found.suppression.line)
  /-- Without a comment that names the tool nothing is suppressed. -/
  suppressed_eq : parsed.CommentsUnnamed → (check config parsed).suppressed = []
  /-- The violations are then those of the scan. -/
  violations_eq : parsed.CommentsUnnamed → (check config parsed).violations = scan parsed config

/-- Only comments suppress, as long as what reads as a comment with a directive lies in one. -/
theorem onlyCommentsSuppress (config : RuleConfig) (parsed : ParsedSource)
    (hinside : ∀ offset, parsed.source.DirectiveAt offset → parsed.InComment offset) :
    OnlyCommentsSuppress config parsed where
  commented := by
    intro found hfound
    obtain ⟨before, after, hsplit, -⟩ := Suppression.isFirstCover_of_mem_suppressed hfound
    have hmem : found.suppression ∈ parsed.suppressions :=
      hsplit ▸ List.mem_append_right before List.mem_cons_self
    obtain ⟨offset, hat, hline⟩ := ParsedSource.exists_directiveAt_of_mem hmem
    exact ⟨offset, hat, hinside offset hat, hline⟩
  suppressed_eq := by
    intro hunnamed
    have hnone := ParsedSource.suppressions_eq_nil hinside hunnamed
    show [] ++ Suppression.suppressed parsed.suppressions (scan parsed config) = []
    rw [hnone, List.nil_append, ← List.map_eq_nil_iff, Suppression.map_violation_suppressed]
    exact List.filter_eq_nil_iff.mpr fun _ _ => Bool.false_ne_true
  violations_eq := by
    intro hunnamed
    have hnone := ParsedSource.suppressions_eq_nil hinside hunnamed
    show Suppression.active parsed.suppressions (scan parsed config) = scan parsed config
    rw [hnone]
    exact List.filter_eq_self.mpr fun _ _ => rfl

/-- A source with a structure that has a view, and the statements in the body of the view. -/
def viewSource (statements : String) (nodes : List Node) : ParsedSource :=
  let stop := 51 + statements.utf8ByteSize
  { path := "S.swift"
    source :=
      ⟨("struct V: View \x7b\n    var body: some View \x7b\n        " ++ statements ++
        "\n    \x7d\n\x7d\n").toUTF8.data⟩
    root :=
      ⟨"source_file", 0, stop + 9, none,
        [⟨"class_declaration", 0, stop + 8, none,
          [⟨"struct", 0, 6, some "declaration_kind", []⟩,
           ⟨"type_identifier", 7, 8, some "name", []⟩,
           ⟨":", 8, 9, none, []⟩,
           ⟨"inheritance_specifier", 10, 14, none,
            [⟨"user_type", 10, 14, some "inherits_from",
              [⟨"type_identifier", 10, 14, none, []⟩]⟩]⟩,
           ⟨"class_body", 15, stop + 8, some "body",
            [⟨"\x7b", 15, 16, none, []⟩,
             ⟨"property_declaration", 21, stop + 6, none,
              [⟨"value_binding_pattern", 21, 24, none, [⟨"var", 21, 24, some "mutability", []⟩]⟩,
               ⟨"pattern", 25, 29, some "name",
                [⟨"simple_identifier", 25, 29, some "bound_identifier", []⟩]⟩,
               ⟨"type_annotation", 29, 40, none,
                [⟨":", 29, 30, none, []⟩,
                 ⟨"opaque_type", 31, 40, some "name",
                  [⟨"some", 31, 35, none, []⟩,
                   ⟨"user_type", 36, 40, none, [⟨"type_identifier", 36, 40, none, []⟩]⟩]⟩]⟩,
               ⟨"computed_property", 41, stop + 6, some "computed_value",
                [⟨"\x7b", 41, 42, none, []⟩,
                 ⟨"statements", 51, stop + 5, none, nodes⟩,
                 ⟨"\x7d", stop + 5, stop + 6, none, []⟩]⟩]⟩,
             ⟨"\x7d", stop + 7, stop + 8, none, []⟩]⟩]⟩]⟩
    hasErrors := false }

/-- A call of a name with a literal as its argument, or without arguments. -/
def callNode (start stop : Nat) (literal : Option (Nat × Nat)) : Node :=
  let literals := literal.elim [] fun range =>
    [⟨"value_argument", range.1, range.2, none,
      [⟨"line_string_literal", range.1, range.2, some "value",
        [⟨"\"", range.1, range.1 + 1, none, []⟩,
         ⟨"line_str_text", range.1 + 1, range.2 - 1, some "text", []⟩,
         ⟨"\"", range.2 - 1, range.2, none, []⟩]⟩]⟩]
  let close := literal.elim (stop + 1) (·.2)
  ⟨"call_expression", start, close + 1, none,
    [⟨"simple_identifier", start, stop, none, []⟩,
     ⟨"call_suffix", stop, close + 1, none,
      [⟨"value_arguments", stop, close + 1, none,
        ⟨"(", stop, stop + 1, none, []⟩ :: literals ++ [⟨")", close, close + 1, none, []⟩]⟩]⟩]⟩

/-- Two bare calls, and a comment with a directive behind the first of them. -/
def commentedView : ParsedSource :=
  viewSource
    "Text(\"a\")\n            padding() // dotcheck:ignore *\n            frame()"
    [callNode 51 55 (some (56, 59)), callNode 73 80 none, ⟨"comment", 83, 103, none, []⟩,
      callNode 116 121 none]

/-- A bare call below a literal that reads as a comment with a directive. -/
def literalView : ParsedSource :=
  viewSource "Text(\"see // dotcheck:ignore-file * here\")\n            padding()"
    [callNode 51 55 (some (56, 92)), callNode 106 113 none]

/-- The comment suppresses the first call and leaves the second one. -/
theorem check_commentedView : (check {} commentedView).violations ≠ [] ∧
    (check {} commentedView).suppressed ≠ [] := by
  decide +kernel

/-- The directive in the comment is the only place with the name of the tool. -/
theorem onlyCommentsSuppress_commentedView :
    (∀ offset, commentedView.source.DirectiveAt offset → commentedView.InComment offset) ∧
      OnlyCommentsSuppress {} commentedView ∧ (check {} commentedView).suppressed ≠ [] := by
  have hplace : ∀ offset ≤ commentedView.source.bytes.size,
      toolName <+: commentedView.source.bytes.toList.drop offset → offset = 86 := by
    decide +kernel
  have hinside : ∀ offset, commentedView.source.DirectiveAt offset →
      commentedView.InComment offset := by
    rintro _ ⟨before, after, -, -, -, hbytes, rfl, -⟩
    have hle : before.length ≤ commentedView.source.bytes.size := by
      rw [← Array.length_toList, hbytes, List.append_assoc, List.length_append]
      omega
    rw [hplace before.length hle (by simp [hbytes])]
    exact ⟨⟨"comment", 83, 103, none, []⟩, List.mem_iff_getElem?.mpr ⟨41, rfl⟩, rfl, by decide,
      by decide +kernel⟩
  exact ⟨hinside, onlyCommentsSuppress {} commentedView hinside, check_commentedView.2⟩

/-- A directive in a literal suppresses the bare call below it, though the tree has no comment. -/
theorem suppressed_by_literal :
    literalView.CommentsUnnamed ∧ scan literalView {} ≠ [] ∧
      (check {} literalView).violations = [] ∧ (check {} literalView).suppressed ≠ [] := by
  have hcode : ∀ node ∈ literalView.root.preorder, node.isComment = false := by
    decide +kernel
  refine ⟨fun comment hmem hcomment => ?_, by decide +kernel⟩
  exact absurd (hcomment.symm.trans (hcode comment hmem)) (by decide)

end LeadingDot
