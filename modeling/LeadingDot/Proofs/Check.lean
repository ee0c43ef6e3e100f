import LeadingDot.Check
import LeadingDot.Proofs.Scan.Findings
import LeadingDot.Proofs.Suppression.Directives
import LeadingDot.Proofs.Text.Lines

/-!
# Suppression by line

The scan counts line feeds among the bytes of a source, the suppressions are read from the
lines of its decoded text. The two agree on every source, malformed or not: line by line
the text is the decoding of the bytes. A directive therefore suppresses the violations on
the line that it asks for.
-/

namespace LeadingDot

/-- The byte that a line feed may follow at the end of a line. -/
def Source.carriageReturn : UInt8 := 0x0D

/-- The lines of a source, as bytes. -/
def Source.lines (source : Source) : List (List UInt8) :=
  Text.segments Source.newline Source.carriageReturn source.bytes.toList

/-- The lines of the decoded text are the lines of the source, each decoded by itself. -/
theorem Source.lines_contentsLossy (source : Source) :
    Text.lines source.contentsLossy.toList = source.lines.map Text.Utf8.decodeLossy := by
  rw [Source.contentsLossy, String.toList_ofList, Text.lines_eq]
  have hfeed : Source.newline < 0x80 := by decide
  have hret : Source.carriageReturn < 0x80 := by decide
  exact Text.Utf8.segments_decodeLossy hfeed hret source.bytes.toList

/-- The number of the line of an offset is that of the segment that holds the offset. -/
theorem Source.exists_segment (source : Source) (offset : Nat) :
    ∃ before after, before <:+ source.bytes.toList.take offset ∧
      after <+: source.bytes.toList.drop offset ∧
      Source.newline ∉ before ∧ Source.newline ∉ after ∧
      (source.bytes.toList.splitOn Source.newline)[(source.position offset).line - 1]? =
        some (before ++ after) := by
  have h := Text.getElem?_splitOn_append Source.newline (source.bytes.toList.take offset)
    (source.bytes.toList.drop offset)
  simpa [Source.position, List.take_append_drop] using h

namespace ParsedSource

variable {parsed : ParsedSource} {config : RuleConfig} {number : Nat} {suppression : Suppression}
  {found : Violation}

/-- A directive that the parser finds in a line of a source and accepts there. -/
def DirectiveOn (parsed : ParsedSource) (number : Nat) (suppression : Suppression) : Prop :=
  ∃ above line below, parsed.source.lines = above ++ line :: below ∧ number = above.length + 1 ∧
    Suppression.ofLine? parsed.path number
      (Suppression.allHeader ((above ++ [line]).map Text.Utf8.decodeLossy))
      (Text.Utf8.decodeLossy line) = some suppression

/-- The suppressions of a source are the directives in its lines. -/
theorem mem_suppressions :
    suppression ∈ parsed.suppressions ↔ ∃ number, parsed.DirectiveOn number suppression := by
  rw [suppressions, Suppression.ofContents, Source.lines_contentsLossy, Suppression.mem_ofLines]
  constructor
  · rintro ⟨above, line, below, hlines, h⟩
    obtain ⟨above, rest, hraw, rfl, hrest⟩ := List.map_eq_append_iff.mp hlines
    obtain ⟨line, below, rfl, rfl, rfl⟩ := List.map_eq_cons_iff.mp hrest
    refine ⟨_, above, line, below, hraw, rfl, ?_⟩
    simpa [Nat.add_comm] using h
  · rintro ⟨number, above, line, below, hraw, rfl, h⟩
    refine ⟨above.map Text.Utf8.decodeLossy, Text.Utf8.decodeLossy line,
      below.map Text.Utf8.decodeLossy, by simp [hraw], ?_⟩
    simpa [Nat.add_comm] using h

end ParsedSource

/-- How a check tells the suppressed violations from the others. -/
structure SuppressedByLine (config : RuleConfig) (parsed : ParsedSource)
    (isSuppressed : Violation → Bool) : Prop where
  /-- The violations that count are those of the scan that are not suppressed. -/
  violations_eq : (check config parsed).violations =
    (scan parsed config).filter fun found => !isSuppressed found
  /-- The others are those of the scan that are suppressed. -/
  suppressed_eq : (check config parsed).suppressed.map (·.violation) =
    (scan parsed config).filter isSuppressed
  /-- Directives are read from the lines of the source, each decoded by itself. -/
  lines_eq : Text.lines parsed.source.contentsLossy.toList =
    parsed.source.lines.map Text.Utf8.decodeLossy
  /-- The line of a violation is found by counting line feeds before it. -/
  line_eq : ∀ found ∈ scan parsed config, found.line =
    1 + (parsed.source.bytes.toList.take found.offset).count Source.newline
  /-- That is the number of the segment between line feeds that holds the violation. -/
  segment : ∀ found ∈ scan parsed config, ∃ before after,
    before <:+ parsed.source.bytes.toList.take found.offset ∧
    after <+: parsed.source.bytes.toList.drop found.offset ∧
    Source.newline ∉ before ∧ Source.newline ∉ after ∧
    (parsed.source.bytes.toList.splitOn Source.newline)[found.line - 1]? = some (before ++ after)
  /-- A violation is suppressed by a directive for its rule or for every rule that covers
  the file, the line of the directive or the line after it. -/
  isSuppressed_iff : ∀ found ∈ scan parsed config, isSuppressed found = true ↔
    ∃ number suppression, parsed.DirectiveOn number suppression ∧
      (suppression.rule = "*" ∨ suppression.rule = found.rule.identifier) ∧
      (suppression.coverage = .file ∨
        suppression.coverage = .line ∧ found.line = number ∨
        suppression.coverage = .nextLine ∧ found.line = number + 1)

/-- A check suppresses the violations that the directives in the lines of the source ask
for, and gives the others, in the order of the scan. -/
theorem exists_suppressedByLine (config : RuleConfig) (parsed : ParsedSource) :
    ∃ isSuppressed, SuppressedByLine config parsed isSuppressed := by
  refine ⟨fun found => (Suppression.cover? parsed.suppressions found).isSome,
    Suppression.active_eq .., Suppression.map_violation_suppressed ..,
    parsed.source.lines_contentsLossy, ?_, ?_, ?_⟩
  · intro found hfound
    obtain ⟨node, rfl⟩ := Scan.exists_of_mem_scan hfound
    simp [Scan.violation, Source.position, Scan.Context.ofParsed, Nat.add_comm]
  · intro found hfound
    obtain ⟨node, rfl⟩ := Scan.exists_of_mem_scan hfound
    exact parsed.source.exists_segment node.start
  · intro found hfound
    obtain ⟨node, rfl⟩ := Scan.exists_of_mem_scan hfound
    rw [Suppression.isSome_cover?_iff]
    constructor
    · rintro ⟨suppression, hmem, hcovers⟩
      obtain ⟨number, hdirective⟩ := ParsedSource.mem_suppressions.mp hmem
      have ⟨above, line, below, _, _, hline⟩ := hdirective
      exact ⟨number, suppression, hdirective,
        ((Suppression.covers_iff_of_ofLine? hline).mp hcovers).2⟩
    · rintro ⟨number, suppression, hdirective, hrule, hcoverage⟩
      refine ⟨suppression, ParsedSource.mem_suppressions.mpr ⟨number, hdirective⟩, ?_⟩
      obtain ⟨above, line, below, -, -, hline⟩ := hdirective
      exact (Suppression.covers_iff_of_ofLine? hline).mpr ⟨rfl, hrule, hcoverage⟩

end LeadingDot
