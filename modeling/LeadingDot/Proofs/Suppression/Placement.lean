import LeadingDot.Proofs.Suppression.Locality
import LeadingDot.Proofs.Suppression.Written
import LeadingDot.Proofs.Text.Lines

/-!
# The place of an ignore

A plain `ignore` that is alone on its line covers the next line, and one that shares its line
with code covers that line. What decides is the text before the comment. Code behind a block
comment that starts its line is not looked at: there the next line is covered all the same.
-/

namespace LeadingDot.Suppression

open Text (Pattern isBlank)

variable {file contents : String} {above below lines : List (List Char)} {comment : Comment}
  {before rule after line : List Char} {reason? : Option (List Char)} {suppression : Suppression}

/-- A line that does not name the tool states nothing. -/
theorem ofLine?_eq_none (h : Unnamed line) (file : String) (number : Nat) (inHeader : Bool) :
    ofLine? file number inHeader line = none := by
  rw [Option.eq_none_iff_forall_ne_some]
  intro suppression hread
  obtain ⟨comment, before, used, after, hline, hused⟩ := exists_accepts_of_ofLine? hread
  obtain ⟨patterns, hpattern⟩ := comment.exists_pattern_eq
  obtain ⟨gap, rest, hsplit, -⟩ := exists_of_accepts (hpattern ▸ hused)
  have hname : "dotcheck:".toList <:+: used := ⟨_, rest, hsplit.symm⟩
  exact h (hname.trans ⟨before, after, hline.symm⟩)

/-- Lines that do not name the tool state nothing. -/
theorem ofLines_eq_nil (h : ∀ line ∈ lines, Unnamed line) (file : String) (number : Nat)
    (inHeader : Bool) : ofLines file number inHeader lines = [] := by
  induction lines generalizing number inHeader with
  | nil => rfl
  | cons line lines ih =>
    rw [List.forall_mem_cons] at h
    rw [ofLines, ofLine?_eq_none h.1, ih h.2]
    rfl

/-- Whether nothing but blanks stands on a line before and after a comment. -/
def IsAlone (before after : List Char) : Prop :=
  ∀ c ∈ before ++ after, isBlank c = true

/-- The suppression of an `ignore`, and what it covers by its place on its line. -/
structure CoversByPlace (file contents : String) (above below : List (List Char))
    (before rule after : List Char) (suppression : Suppression) : Prop where
  /-- It is what the line states, and it is recorded for the file. -/
  directiveAt?_eq : directiveAt? file contents above.length = some suppression
  mem_ofContents : suppression ∈ ofContents file contents
  rule_eq : suppression.rule = String.ofList rule
  /-- It is one for the next line if the comment is alone, and one for its own line otherwise. -/
  nextLine_iff : suppression.coverage = .nextLine ↔ IsAlone before after
  line_iff : suppression.coverage = .line ↔ ¬ IsAlone before after
  /-- It covers the violations of its rule on the same line just when it is not alone there, and
  those on the following line just when it is. -/
  covers_iff : ∀ violation, suppression.covers violation = true ↔ violation.file = file ∧
    (String.ofList rule = "*" ∨ String.ofList rule = violation.rule.identifier) ∧
    (¬ IsAlone before after ∧ violation.line = above.length + 1 ∨
      IsAlone before after ∧ violation.line = above.length + 2)
  /-- Nothing else is recorded if no other line names the tool. -/
  ofContents_eq : (∀ line ∈ above ++ below, Unnamed line) →
    ofContents file contents = [suppression]

/-- The coverage of an `ignore` is decided by what stands before it. -/
theorem exists_ofLine?_ignore (hwritten : IsWritten before comment "ignore" rule reason?)
    (hline : line = before ++ comment.around (directiveText "ignore" rule reason?))
    (hfeed : '\n' ∉ line) (file : String) (number : Nat) (inHeader : Bool) :
    ∃ suppression, ofLine? file number inHeader line = some suppression ∧
      suppression.rule = String.ofList rule ∧
      suppression.coverage = if before.all isBlank then .nextLine else .line := by
  obtain ⟨reason, -, hread⟩ := hwritten.exists_ofLine?_eq_stated hline hfeed
  have hword : ¬ ("ignore" = "ignore-file" ∧ inHeader = false ∧ headerLines < number) :=
    fun h => absurd h.1 (by decide)
  refine ⟨_, (hread file number inHeader).trans (if_neg hword), ?_, rfl⟩
  exact congrArg String.ofList hwritten.ruleText_eq

/-- If what stands after the comment is blank where nothing stands before it, a plain `ignore`
covers the next line just when it is alone on its line, and its own line otherwise. -/
theorem exists_coversByPlace (file contents : String)
    (hwritten : IsWritten before comment "ignore" rule reason?)
    (hlines : Text.lines contents.toList =
      above ++ (before ++ comment.around (directiveText "ignore" rule reason?)) :: below)
    (hafter : (∀ c ∈ before, isBlank c = true) → ∀ c ∈ comment.after, isBlank c = true) :
    ∃ suppression,
      CoversByPlace file contents above below before rule comment.after suppression := by
  obtain ⟨suppression, hread, hrule, hcoverage⟩ := exists_ofLine?_ignore hwritten rfl
    (Text.not_mem_of_lines_eq hlines) file (above.length + 1)
    (allHeader (above ++ [before ++ comment.around (directiveText "ignore" rule reason?)]))
  generalize before ++ comment.around (directiveText "ignore" rule reason?) = line at hlines hread
  have halone : IsAlone before comment.after ↔ before.all isBlank = true := by
    rw [IsAlone, List.forall_mem_append, List.all_eq_true]
    exact and_iff_left_of_imp hafter
  have hnextLine : suppression.coverage = .nextLine ↔ IsAlone before comment.after := by
    rw [hcoverage, halone]
    split <;> simp [*]
  have hline : suppression.coverage = .line ↔ ¬ IsAlone before comment.after := by
    rw [hcoverage, halone]
    split <;> simp [*]
  have hfile : suppression.coverage ≠ .file := by
    rw [hcoverage]
    split <;> simp
  have hdirective := (directiveAt?_of_lines hlines).trans hread
  refine ⟨suppression, hdirective, ?_, hrule, hnextLine, hline, fun violation => ?_,
    fun hothers => ?_⟩
  · rw [ofContents_of_lines file hlines, hdirective]
    simp
  · rw [covers_iff_of_ofLine? hread, hrule, hline, hnextLine]
    simp only [hfile, false_or]
  · have habove : ∀ line ∈ above, Unnamed line := fun line h =>
      hothers line (List.mem_append_left below h)
    have hbelow : ∀ line ∈ below, Unnamed line := fun line h =>
      hothers line (List.mem_append_right above h)
    rw [ofContents_of_lines file hlines, hdirective, ofLines_eq_nil habove,
      ofLines_eq_nil hbelow]
    rfl

/-- An `ignore` between two calls covers their line. -/
theorem exists_coversByPlace_betweenCalls :
    IsWritten "f() ".toList (.block " g()".toList) "ignore" "*".toList (some "r".toList) ∧
      ∃ suppression, CoversByPlace "A.swift" "f() /* dotcheck:ignore * - r */ g()\n" [] []
        "f() ".toList "*".toList " g()".toList suppression := by
  have hwritten : IsWritten "f() ".toList (.block " g()".toList) "ignore" "*".toList
      (some "r".toList) :=
    .of_colonless (by decide) (by decide) (List.forall_mem_singleton.mpr rfl) (by decide)
  have hlines : Text.lines "f() /* dotcheck:ignore * - r */ g()\n".toList =
      [] ++ ("f() ".toList ++ (Comment.block " g()".toList).around
        (directiveText "ignore" "*".toList (some "r".toList))) :: [] := by
    decide +kernel
  refine ⟨hwritten, exists_coversByPlace "A.swift" _ hwritten hlines fun hbefore => ?_⟩
  exact absurd (hbefore 'f' (by decide)) (by decide)

/-- An `ignore` in a block comment with code behind it is not alone on its line, yet it covers
the next line if nothing stands before it. -/
theorem code_behind_comment_unseen :
    IsWritten [] (.block " padding()".toList) "ignore" "*".toList (some "r".toList) ∧
      Text.lines "/* dotcheck:ignore * - r */ padding()\n".toList =
        [[] ++ (Comment.block " padding()".toList).around
          (directiveText "ignore" "*".toList (some "r".toList))] ∧
      ¬ IsAlone [] " padding()".toList ∧
      ofContents "A.swift" "/* dotcheck:ignore * - r */ padding()\n" =
        [⟨"*", "r", "A.swift", 1, .nextLine⟩] := by
  have halone : ¬ IsAlone [] " padding()".toList := fun halone =>
    absurd (halone 'p' (by decide)) (by decide)
  exact ⟨.of_colonless (by decide) (by decide) (List.forall_mem_singleton.mpr rfl) (by decide),
    by decide +kernel, halone, by decide +kernel⟩

end LeadingDot.Suppression
