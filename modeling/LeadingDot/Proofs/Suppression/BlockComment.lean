import LeadingDot.Proofs.Suppression.LineComment

/-!
# Directives in block comments

A block comment names its rule as a line comment does. Its reason is the text between the dash
and the first closing mark behind it, without blanks at the ends: the pattern takes as little
as it can before the closing mark, and the blanks before the mark do not belong to the reason.
-/

namespace LeadingDot.Suppression

open Text (Pattern isBlank trim)
open Text.Pattern

variable {β : Type} {cs blanks reason after : List Char} {groups : Groups}
  {next : List Char → Groups → Option β} {result : β}

/-- The end of a block comment, with the blanks before it. -/
def closingPattern : Pattern :=
  .sequence [blankRun, .literal "*/"]

/-- The reason in a block comment, behind its dash. -/
def dashedReasonPattern : Pattern :=
  .sequence [.literal "-", blankRun, .group 3 (.many false (· != '\n'))]

/-- What follows the rule in a block comment: perhaps the reason, and the end. -/
def blockReasonPattern : Pattern :=
  .sequence [blankRun, .optional dashedReasonPattern, closingPattern]

/-- The pattern of a block comment, its parts one after the other. -/
theorem matchHere?_blockPattern (cs : List Char) :
    blockPattern.matchHere? cs =
      (Pattern.sequence [.literal "/*", blankRun, .literal "dotcheck:", wordPattern,
        .some1 isBlank, .sequence [.group 2 (.some1 isInk), blockReasonPattern]]).run cs []
          fun rest kept => some (kept, rest) := rfl

/-- The blanks before the closing mark are taken as a whole. -/
theorem run_closingPattern (cs : List Char) (groups : Groups)
    (next : List Char → Groups → Option β) :
    closingPattern.run cs groups next =
      (literal "*/").run (cs.dropWhile isBlank) groups next := by
  rw [closingPattern, run_sequence_cons, blankRun, run]
  refine runMany_of_refused (fun c cs hc => ?_) cs
  refine run_literal_of_head?_ne "*/" rfl fun heq => ?_
  obtain rfl : c = '*' := Option.some.inj heq
  exact absurd hc (by decide)

theorem run_closingPattern_append (hblanks : ∀ c ∈ blanks, isBlank c = true) :
    closingPattern.run (blanks ++ ("*/".toList ++ after)) groups next = next after groups := by
  have hstop : ("*/".toList ++ after).dropWhile isBlank = "*/".toList ++ after := rfl
  rw [run_closingPattern, List.dropWhile_append_of_pos hblanks, hstop, run_literal_append]

/-- A closing mark does not begin with the end of a text that holds none. -/
theorem not_prefix_of_suffix {text later : List Char} (htext : ¬ "*/".toList <:+: text)
    (hlater : later <:+ text) (hne : later ≠ []) : ¬ "*/".toList <+: later ++ '*' :: after := by
  intro hprefix
  match later, hne with
  | [c], _ =>
    have hsecond := (List.cons_prefix_cons.mp hprefix).2
    exact absurd (List.cons_prefix_cons.mp hsecond).1 (by decide)
  | c :: d :: later, _ =>
    obtain ⟨rfl, hsecond⟩ := List.cons_prefix_cons.mp hprefix
    obtain ⟨rfl, -⟩ := List.cons_prefix_cons.mp hsecond
    have hmark : "*/".toList <:+: '*' :: '/' :: later := ⟨[], later, rfl⟩
    exact htext (hmark.trans hlater.isInfix)

/-- Where the reason goes on, the comment does not end yet. -/
theorem run_closingPattern_of_suffix {later : List Char}
    (hsplit : reason = Text.trimEnd reason ++ blanks)
    (hclose : ¬ "*/".toList <:+: reason) (hlater : later <:+ Text.trimEnd reason)
    (hne : later ≠ []) :
    closingPattern.run (later ++ (blanks ++ ("*/".toList ++ after))) groups next = none := by
  -- What is left of the reason ends in a character that is not blank.
  obtain ⟨before, c, rfl, hc⟩ : ∃ before c, later = before ++ [c] ∧ isBlank c = false := by
    rcases Text.trimEnd_eq_nil_or_concat reason with hnil | ⟨before, c, hconcat, hc⟩
    · rw [hnil] at hlater
      exact absurd (List.suffix_nil.mp hlater) hne
    · rw [hconcat] at hlater
      rcases List.suffix_concat_iff.mp hlater with hempty | ⟨rest, rfl, -⟩
      · exact absurd hempty hne
      · exact ⟨rest, c, rfl, hc⟩
  have hink : (before ++ [c]).dropWhile isBlank ≠ [] := fun hnil => by
    have hblank := List.dropWhile_eq_nil_iff.mp hnil c (by simp)
    exact absurd (hblank.symm.trans hc) (by decide)
  have hdrop : (before ++ [c] ++ (blanks ++ ("*/".toList ++ after))).dropWhile isBlank =
      ((before ++ [c]).dropWhile isBlank ++ blanks) ++ '*' :: '/' :: after := by
    rw [List.dropWhile_append, if_neg (by simpa using hink), List.append_assoc]
    rfl
  have hsuffix : (before ++ [c]).dropWhile isBlank ++ blanks <:+ reason := by
    obtain ⟨start, hstart⟩ := (List.dropWhile_suffix isBlank).trans hlater
    exact ⟨start, by rw [← List.append_assoc, hstart, ← hsplit]⟩
  rw [run_closingPattern, hdrop]
  refine run_literal_of_not_prefix (not_prefix_of_suffix hclose hsuffix ?_)
  exact List.append_ne_nil_of_left_ne_nil hink blanks

/-- The reason ends before the blanks in front of the first closing mark. -/
theorem run_reasonGroup (hclose : ¬ "*/".toList <:+: reason) (hreason : '\n' ∉ reason)
    (hnext : next after ((3, Text.trimEnd reason) :: groups) = some result) :
    (group 3 (.many false (· != '\n'))).run (reason ++ ("*/".toList ++ after)) groups
      (fun rest kept => closingPattern.run rest kept next) = some result := by
  obtain ⟨blanks, hsplit, hblanks⟩ := Text.exists_append_trimEnd reason
  have hline : ∀ c ∈ Text.trimEnd reason, (c != '\n') = true := by
    intro c hc
    refine bne_iff_ne.mpr fun heq => hreason ?_
    rw [hsplit, ← heq]
    exact List.mem_append_left _ hc
  have hwhole : reason ++ ("*/".toList ++ after) =
      Text.trimEnd reason ++ (blanks ++ ("*/".toList ++ after)) :=
    (congrArg (· ++ _) hsplit).trans (List.append_assoc ..)
  rw [run, run, hwhole]
  refine runMany_lazy hline ?_ fun later hlater hne => ?_
  · rw [run_closingPattern_append hblanks, ← hnext]
    simp
  · exact run_closingPattern_of_suffix hsplit hclose hlater hne

/-- Behind blanks the reason is tried first, then the end without a reason. -/
theorem run_blockReasonPattern (hblanks : ∀ c ∈ blanks, isBlank c = true)
    (hcs : cs.dropWhile isBlank = cs)
    (hnext : (dashedReasonPattern.run cs groups (fun rest kept => closingPattern.run rest kept next)
      <|> closingPattern.run cs groups next) = some result) :
    blockReasonPattern.run (blanks ++ cs) groups next = some result := by
  rw [blockReasonPattern, run_sequence_cons]
  refine runMany_of_accepted ?_
  rw [List.dropWhile_append_of_pos hblanks, hcs]
  exact hnext

/-- After a dash the reason is the text up to the first closing mark. -/
theorem run_blockReasonPattern_dash (hblanks : ∀ c ∈ blanks, isBlank c = true)
    (hclose : ¬ "*/".toList <:+: reason) (hreason : '\n' ∉ reason)
    (hnext : next after ((3, trim reason) :: groups) = some result) :
    blockReasonPattern.run (blanks ++ '-' :: (reason ++ ("*/".toList ++ after))) groups next =
      some result := by
  have hstart : Text.trimStart reason <:+ reason := List.dropWhile_suffix isBlank
  have hdrop : (reason ++ ("*/".toList ++ after)).dropWhile isBlank =
      Text.trimStart reason ++ ("*/".toList ++ after) := by
    rw [List.dropWhile_append, Text.trimStart]
    split
    · next hempty =>
      rw [List.isEmpty_iff.mp hempty]
      rfl
    · rfl
  have hdash : dashedReasonPattern.run ("-".toList ++ (reason ++ ("*/".toList ++ after))) groups
      (fun rest kept => closingPattern.run rest kept next) = some result := by
    rw [dashedReasonPattern, run_sequence_cons, run_literal_append, run_sequence_cons]
    refine runMany_of_accepted ?_
    rw [hdrop]
    exact run_reasonGroup (fun h => hclose (h.trans hstart.isInfix))
      (fun h => hreason (hstart.mem h)) hnext
  exact run_blockReasonPattern hblanks (List.dropWhile_cons_of_neg (by decide))
    (congrArg (· <|> _) hdash)

/-- Without a dash there is no reason. -/
theorem run_blockReasonPattern_close (hblanks : ∀ c ∈ blanks, isBlank c = true)
    (hnext : next after groups = some result) :
    blockReasonPattern.run (blanks ++ ("*/".toList ++ after)) groups next = some result := by
  have hnodash : dashedReasonPattern.run ("*/".toList ++ after) groups
      (fun rest kept => closingPattern.run rest kept next) = none := by
    have hhead : ("*/".toList ++ after).head? ≠ some '-' := by simp
    rw [dashedReasonPattern, run_sequence_cons, run_literal_of_head?_ne "-" rfl hhead]
  have hclosed : closingPattern.run ("*/".toList ++ after) groups next = some result :=
    (run_closingPattern_append (List.forall_mem_nil _)).trans hnext
  refine run_blockReasonPattern hblanks rfl ?_
  rw [hnodash, hclosed]
  rfl

end LeadingDot.Suppression
