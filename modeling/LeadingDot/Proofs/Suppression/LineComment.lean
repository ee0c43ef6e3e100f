import LeadingDot.Proofs.Suppression.Directives
import LeadingDot.Proofs.Text.Pattern
import LeadingDot.Proofs.Text.Trim
import Mathlib.Data.Nat.Find

/-!
# Directives in line comments

A line comment is tried with a pattern that may give back characters and try again. It
never has to: every run of blanks or of other characters ends where the next part starts,
and at most one of the directive words is followed by a blank. What the pattern finds can
therefore be read off the text from left to right.
-/

namespace LeadingDot.Suppression

open Text (Pattern isBlank trim)
open Text.Pattern

/-- The words of directives. -/
def directiveWords : List String := ["ignore", "ignore-file", "ignore-next-line"]

/-- A text that reads as a directive in a line comment from its start on: with the word and
what follows the blanks after it. -/
def IsDirective (cs : List Char) (word : String) (rest : List Char) : Prop :=
  ∃ gap space, cs = "//".toList ++ gap ++ "dotcheck:".toList ++ word.toList ++ space ++ rest ∧
    (∀ c ∈ gap, isBlank c = true) ∧ word ∈ directiveWords ∧
    space ≠ [] ∧ (∀ c ∈ space, isBlank c = true) ∧
    ∃ c tail, rest = c :: tail ∧ isBlank c = false

/-- The rule that a directive names: all up to the next blank. -/
def ruleText (rest : List Char) : List Char :=
  rest.takeWhile isInk

/-- The reason that a directive gives: what follows a dash after the rule. -/
def reasonText (rest : List Char) : List Char :=
  match (rest.dropWhile isInk).dropWhile isBlank with
  | '-' :: reason => trim reason
  | _ => []

variable {cs rest line : List Char} {word : String} {groups : Groups} {i : Nat}

theorem mem_directiveWords :
    word ∈ directiveWords ↔ word = "ignore" ∨ word = "ignore-file" ∨ word = "ignore-next-line" := by
  simp [directiveWords]

/-- The pattern for the word takes one of the directive words. -/
theorem exists_word_of_accepts (h : wordPattern.Accepts cs) :
    ∃ word ∈ directiveWords, cs = word.toList := by
  obtain ⟨_, ending, rfl, hstart, hending⟩ := h
  rw [accepts_literal.mp hstart]
  rcases hending with (hending | hending) | rfl
  · exact ⟨"ignore-file", by decide, accepts_literal.mp hending ▸ rfl⟩
  · exact ⟨"ignore-next-line", by decide, accepts_literal.mp hending ▸ rfl⟩
  · exact ⟨"ignore", by decide, rfl⟩

/-- A text in which the pattern matches reads as a directive. -/
theorem exists_isDirective_of_accepts {used : List Char} (h : linePattern.Accepts used)
    (after : List Char) : ∃ word rest, IsDirective (used ++ after) word rest := by
  -- The parts of the pattern, from left to right.
  rw [linePattern, accepts_sequence_cons] at h
  obtain ⟨_, _, rfl, hmark, h⟩ := h
  obtain ⟨_, reason, rfl, hdirective, -⟩ := accepts_sequence_cons.mp h
  rw [directivePattern, accepts_sequence_cons] at hdirective
  obtain ⟨gap, _, rfl, hgap, hdirective⟩ := hdirective
  obtain ⟨_, _, rfl, hname, hdirective⟩ := accepts_sequence_cons.mp hdirective
  obtain ⟨_, _, rfl, hword, hdirective⟩ := accepts_sequence_cons.mp hdirective
  obtain ⟨_, _, rfl, hspace, hdirective⟩ := accepts_sequence_cons.mp hdirective
  obtain ⟨_, blanks, rfl, hrule, -⟩ := accepts_sequence_cons.mp hdirective
  obtain ⟨word, hmem, rfl⟩ := exists_word_of_accepts hword
  obtain ⟨c, space, rfl, hc, hspace⟩ := accepts_some1.mp hspace
  obtain ⟨d, rule, rfl, hd, -⟩ := accepts_some1.mp hrule
  refine ⟨word, d :: (rule ++ blanks ++ reason ++ after), gap, c :: space, ?_, hgap, hmem,
    List.cons_ne_nil _ _, List.forall_mem_cons.mpr ⟨hc, hspace⟩, d, _, rfl, ?_⟩
  · rw [accepts_literal.mp hmark, accepts_literal.mp hname]
    simp only [List.append_assoc, List.cons_append]
  · simpa [isInk] using hd

/-- The reason as a group, from where the blanks after the rule end. -/
def reasonGroup : List Char → Groups
  | '-' :: reason => [(3, reason.dropWhile isBlank)]
  | _ => []

/-- The groups that a directive gives. -/
def directiveGroups (word : String) (rest : List Char) : Groups :=
  reasonGroup ((rest.dropWhile isInk).dropWhile isBlank) ++
    [(2, ruleText rest), (1, word.toList)]

/-- After a dash the reason is all that follows, without the blanks that it starts with. -/
theorem run_lineReasonPattern_dash {reason : List Char} (hreason : '\n' ∉ reason) :
    lineReasonPattern.run ('-' :: reason) groups (fun rest kept => some (kept, rest)) =
      some ((3, reason.dropWhile isBlank) :: groups, []) := by
  have hend : (reason.dropWhile isBlank).dropWhile (· != '\n') = [] := by
    rw [List.dropWhile_eq_nil_iff]
    intro c hc
    exact bne_iff_ne.mpr fun heq => hreason (heq ▸ (List.dropWhile_suffix _).mem hc)
  have hgroup : (group 3 (.many true (· != '\n'))).run (reason.dropWhile isBlank) groups
      (fun rest kept => some (kept, rest)) =
        some ((3, reason.dropWhile isBlank) :: groups, []) := by
    refine runMany_of_accepted ?_
    rw [hend]
    simp
  have hblanks : blankRun.run reason groups (fun rest kept =>
      (group 3 (.many true (· != '\n'))).run rest kept fun rest kept => some (kept, rest)) =
        some ((3, reason.dropWhile isBlank) :: groups, []) :=
    runMany_of_accepted hgroup
  have hdash : '-' :: reason = "-".toList ++ reason := rfl
  rw [lineReasonPattern, Pattern.optional, run, run_sequence_cons, hdash, run_literal_append,
    run_sequence_cons]
  exact congrArg (· <|> _) hblanks

/-- The reason is optional, so the pattern for it matches in any case. -/
theorem run_lineReasonPattern (groups : Groups) (hcs : '\n' ∉ cs) :
    ∃ after, lineReasonPattern.run cs groups (fun rest kept => some (kept, rest)) =
      some (reasonGroup cs ++ groups, after) := by
  by_cases hdash : ∃ reason, cs = '-' :: reason
  · obtain ⟨reason, rfl⟩ := hdash
    exact ⟨[], run_lineReasonPattern_dash fun h => hcs (List.mem_cons_of_mem _ h)⟩
  · have hhead : cs.head? ≠ some '-' := fun h => hdash (List.head?_eq_some_iff.mp h)
    have hgroup : reasonGroup cs = [] := by
      unfold reasonGroup
      split
      · next reason => exact absurd ⟨reason, rfl⟩ hdash
      · rfl
    refine ⟨cs, ?_⟩
    rw [lineReasonPattern, Pattern.optional, run, run_sequence_cons,
      run_literal_of_head?_ne "-" rfl hhead, hgroup]
    rfl

/-- What follows the blanks after the word of a directive: the rule, and perhaps the
reason. -/
def rulePattern : Pattern :=
  .sequence [.group 2 (.some1 isInk), blankRun, lineReasonPattern]

/-- The rule is taken up to its end, if what follows it goes on there. -/
theorem run_rule {β : Type} {patterns : List Pattern} {next : List Char → Groups → Option β}
    {result : β} {c : Char} {tail : List Char} (hc : isBlank c = false)
    (hnext : (Pattern.sequence patterns).run ((c :: tail).dropWhile isInk)
      ((2, ruleText (c :: tail)) :: groups) next = some result) :
    (Pattern.sequence (.group 2 (.some1 isInk) :: patterns)).run (c :: tail) groups next =
      some result := by
  have hink : isInk c = true := by simp [isInk, hc]
  have htaken : (c :: tail).take ((c :: tail).length - (tail.dropWhile isInk).length) =
      ruleText (c :: tail) := by
    have hsplit : ruleText (c :: tail) ++ tail.dropWhile isInk = c :: tail := by
      rw [ruleText, List.takeWhile_cons_of_pos hink, List.cons_append,
        List.takeWhile_append_dropWhile]
    have hlength := congrArg List.length hsplit
    rw [List.length_append] at hlength
    exact (congrArg (List.take _) hsplit.symm).trans (List.take_left' (by omega))
  rw [List.dropWhile_cons_of_pos hink] at hnext
  rw [run_sequence_cons, run, some1, run, run, if_pos hink, run]
  refine runMany_of_accepted ?_
  rw [htaken]
  exact hnext

/-- A rule does not start with a blank. -/
theorem run_rule_of_isBlank {β : Type} {next : List Char → Groups → Option β} {c : Char}
    (hc : isBlank c = true) (patterns : List Pattern) (cs : List Char) (groups : Groups) :
    (Pattern.sequence (.group 2 (.some1 isInk) :: patterns)).run (c :: cs) groups next = none := by
  have hink : isInk c = false := by simp [isInk, hc]
  rw [run_sequence_cons, run, some1, run, run, hink]
  rfl

/-- The rule is taken up to its end, as what follows it matches there. -/
theorem run_rulePattern (groups : Groups) {c : Char} {tail : List Char} (hc : isBlank c = false)
    (htail : '\n' ∉ tail) :
    ∃ after, rulePattern.run (c :: tail) groups (fun rest kept => some (kept, rest)) =
      some (reasonGroup (((c :: tail).dropWhile isInk).dropWhile isBlank) ++
        (2, ruleText (c :: tail)) :: groups, after) := by
  have hink : isInk c = true := by simp [isInk, hc]
  have hrest : '\n' ∉ ((c :: tail).dropWhile isInk).dropWhile isBlank := by
    rw [List.dropWhile_cons_of_pos hink]
    exact fun h => htail ((List.dropWhile_suffix _).mem ((List.dropWhile_suffix _).mem h))
  obtain ⟨after, hreason⟩ := run_lineReasonPattern ((2, ruleText (c :: tail)) :: groups) hrest
  refine ⟨after, run_rule hc ?_⟩
  rw [run_sequence_cons]
  exact runMany_of_accepted hreason

/-- The word of a directive is `ignore` with one of three endings. If the text does not go
on with a dash, only the ending that stands there is found. -/
theorem run_ending {β : Type} {next : List Char → Groups → Option β} {result : β}
    {ending : String} {after : List Char} (hending : ending ∈ ["", "-file", "-next-line"])
    (hafter : after.head? ≠ some '-') (hnext : next after groups = some result) :
    (Pattern.optional (.either (.literal "-file") (.literal "-next-line"))).run
      (ending.toList ++ after) groups next = some result := by
  rw [Pattern.optional, run, run, run]
  simp only [List.mem_cons, List.not_mem_nil, or_false] at hending
  rcases hending with rfl | rfl | rfl
  · -- Both endings start with a dash, so neither is taken.
    rw [String.toList_empty, List.nil_append, run_literal_of_head?_ne "-file" rfl hafter,
      run_literal_of_head?_ne "-next-line" rfl hafter, hnext]
    rfl
  · rw [run_literal_append, hnext]
    rfl
  · have hfile : (literal "-file").run ("-next-line".toList ++ after) groups next = none := rfl
    rw [hfile, run_literal_append, hnext]
    rfl

/-- The directive words differ in their endings. -/
theorem exists_ending (hword : word ∈ directiveWords) :
    ∃ ending ∈ ["", "-file", "-next-line"],
      word.toList = "ignore".toList ++ String.toList ending := by
  rcases mem_directiveWords.mp hword with rfl | rfl | rfl
  · exact ⟨"", by simp, rfl⟩
  · exact ⟨"-file", by simp, rfl⟩
  · exact ⟨"-next-line", by simp, rfl⟩

/-- The word of a directive is found if what follows goes on behind it. -/
theorem run_wordPattern {β : Type} {next : List Char → Groups → Option β} {result : β}
    {after : List Char} (hword : word ∈ directiveWords) (hafter : after.head? ≠ some '-')
    (hnext : next after ((1, word.toList) :: groups) = some result) :
    wordPattern.run (word.toList ++ after) groups next = some result := by
  obtain ⟨ending, hending, hsplit⟩ := exists_ending hword
  have htaken : (word.toList ++ after).take ((word.toList ++ after).length - after.length) =
      word.toList := by simp
  rw [← htaken] at hnext
  rw [wordPattern, run, run, hsplit, List.append_assoc, run_literal_append,
    ← List.append_assoc, ← hsplit]
  exact run_ending hending hafter hnext

/-- The pattern of a line comment, its parts one after the other. -/
theorem matchHere?_linePattern (cs : List Char) :
    linePattern.matchHere? cs =
      (Pattern.sequence [.literal "//", blankRun, .literal "dotcheck:", wordPattern,
        .some1 isBlank, rulePattern]).run cs [] fun rest kept => some (kept, rest) := rfl

/-- The blanks before the name of the tool are taken as a whole, as the name does not start
with a blank. -/
theorem run_blankRun_name {β : Type} {next : List Char → Groups → Option β}
    {gap : List Char} {patterns : List Pattern} (hgap : ∀ c ∈ gap, isBlank c = true) :
    (Pattern.sequence (blankRun :: .literal "dotcheck:" :: patterns)).run
        (gap ++ ("dotcheck:".toList ++ rest)) groups next =
      (Pattern.sequence patterns).run rest groups next := by
  have hend : ("dotcheck:".toList ++ rest).dropWhile isBlank = "dotcheck:".toList ++ rest := rfl
  rw [run_sequence_cons, blankRun, run_many_of_refused hgap hend, run_sequence_cons,
    run_literal_append]
  intro c cs hc
  have hne : c ≠ 'd' := by
    rintro rfl
    exact absurd hc (by decide)
  rw [run_sequence_cons, run_literal_of_head?_ne "dotcheck:" (c := 'd') rfl (by simpa using hne)]

/-- The parts of a directive up to its rule are found in any comment, if what follows them
goes on at the rule and not at a blank. -/
theorem run_opening {β : Type} {next : List Char → Groups → Option β} {result : β}
    {gap space : List Char} {tail : Pattern} (mark : String) (hgap : ∀ c ∈ gap, isBlank c = true)
    (hword : word ∈ directiveWords) (hne : space ≠ []) (hspace : ∀ c ∈ space, isBlank c = true)
    (hrest : rest.dropWhile isBlank = rest)
    (hrefused : ∀ c cs groups, isBlank c = true → tail.run (c :: cs) groups next = none)
    (hnext : tail.run rest [(1, word.toList)] next = some result) :
    (Pattern.sequence [.literal mark, blankRun, .literal "dotcheck:", wordPattern,
      .some1 isBlank, tail]).run
        (mark.toList ++ gap ++ "dotcheck:".toList ++ word.toList ++ space ++ rest) [] next =
      some result := by
  have hnodash : (space ++ rest).head? ≠ some '-' := by
    obtain ⟨d, space, rfl⟩ := List.exists_cons_of_ne_nil hne
    rintro heq
    obtain rfl : d = '-' := Option.some.inj heq
    exact absurd (hspace '-' List.mem_cons_self) (by decide)
  simp only [List.append_assoc]
  rw [run_sequence_cons, run_literal_append, run_blankRun_name hgap, run_sequence_cons]
  refine run_wordPattern hword hnodash ?_
  rw [run_sequence_cons, run_some1_of_refused hne hspace hrest fun c cs hc => hrefused c cs _ hc]
  exact hnext

/-- In a text that reads as a directive the pattern finds what the directive says. -/
theorem exists_matchHere?_of_isDirective (h : IsDirective cs word rest) (hcs : '\n' ∉ cs) :
    ∃ after, linePattern.matchHere? cs = some (directiveGroups word rest, after) := by
  obtain ⟨gap, space, rfl, hgap, hword, hne, hspace, c, tail, rfl, hc⟩ := h
  have htail : '\n' ∉ tail := fun h => hcs (by simp [h])
  -- What is found is known from the last part on; the parts before it only lead there.
  obtain ⟨after, hrule⟩ := run_rulePattern [(1, word.toList)] hc htail
  refine ⟨after, (matchHere?_linePattern _).trans ?_⟩
  exact run_opening "//" hgap hword hne hspace (List.dropWhile_cons_of_neg (by simp [hc]))
    (fun d cs groups hd => run_rule_of_isBlank hd _ cs groups) hrule

/-- The leftmost place of a line from which it reads as a directive. -/
structure IsLeftmost (line : List Char) (i : Nat) (word : String) (rest : List Char) : Prop where
  isDirective : IsDirective (line.drop i) word rest
  leftmost : ∀ j < i, ¬ ∃ word rest, IsDirective (line.drop j) word rest

/-- Where there are directives, one of them is the leftmost. -/
theorem exists_isLeftmost (h : ∃ i word rest, IsDirective (line.drop i) word rest) :
    ∃ i word rest, IsLeftmost line i word rest := by
  classical
  obtain ⟨word, rest, hfirst⟩ := Nat.find_spec h
  exact ⟨Nat.find h, word, rest, hfirst, fun j hj => Nat.find_min h hj⟩

/-- The suppression that a directive states on a line, when `before` stands before it. -/
def stated (file : String) (number : Nat) (before : List Char) (word : String)
    (rest : List Char) : Suppression where
  rule := String.ofList (ruleText rest)
  reason := String.ofList (reasonText rest)
  file
  line := if word = "ignore-file" then 0 else number
  coverage :=
    if word = "ignore-file" then .file
    else if word = "ignore-next-line" then .nextLine
    else if before.all isBlank then .nextLine
    else .line

/-- Where the pattern matches, the text reads as a directive. -/
theorem exists_isDirective_of_matchHere? {found : Groups × List Char}
    (h : linePattern.matchHere? cs = some found) : ∃ word rest, IsDirective cs word rest := by
  obtain ⟨used, after, kept, rfl, hused, -⟩ := exists_of_run h
  exact exists_isDirective_of_accepts hused after

theorem exists_isDirective_of_search? {found : Match} (h : linePattern.search? line = some found) :
    ∃ i word rest, IsDirective (line.drop i) word rest := by
  obtain ⟨i, groups, after, hmatch⟩ := exists_of_search? h
  exact ⟨i, exists_isDirective_of_matchHere? hmatch⟩

/-- The search finds the leftmost directive. -/
theorem exists_search?_of_isLeftmost (h : IsLeftmost line i word rest) (hline : '\n' ∉ line) :
    ∃ after, linePattern.search? line =
      some ⟨line.take i, directiveGroups word rest, after⟩ := by
  have hdrop : '\n' ∉ line.drop i := fun h => hline (List.mem_of_mem_drop h)
  obtain ⟨after, hmatch⟩ := exists_matchHere?_of_isDirective h.isDirective hdrop
  refine ⟨after, search?_eq_some (fun j hj => ?_) ?_ hmatch⟩
  · cases hfound : linePattern.matchHere? (line.drop j) with
    | none => rfl
    | some found => exact absurd (exists_isDirective_of_matchHere? hfound) (h.leftmost j hj)
  · by_contra hlt
    obtain ⟨gap, space, heq, -⟩ := h.isDirective
    rw [List.drop_eq_nil_of_le (by omega)] at heq
    cases heq

/-- The reason is kept apart from the word and the rule. -/
theorem get?_directiveGroups {number : Nat} (hnumber : number ≠ 3) (word : String)
    (rest : List Char) :
    (directiveGroups word rest).get? number =
      Groups.get? [(2, ruleText rest), (1, word.toList)] number := by
  unfold directiveGroups reasonGroup
  split
  · simp [Groups.get?, Ne.symm hnumber]
  · rfl

theorem get?_word (word : String) (rest : List Char) :
    (directiveGroups word rest).get? 1 = some word.toList :=
  get?_directiveGroups (by decide) word rest

theorem get?_rule (word : String) (rest : List Char) :
    (directiveGroups word rest).get? 2 = some (ruleText rest) :=
  get?_directiveGroups (by decide) word rest

/-- A reason that is missing is the empty one. -/
theorem trim_get?_reason (word : String) (rest : List Char) :
    trim (((directiveGroups word rest).get? 3).getD []) = reasonText rest := by
  unfold directiveGroups reasonGroup reasonText
  split
  · simp [Groups.get?, Text.trim_dropWhile_isBlank]
  · rfl

/-- Each directive word asks for a coverage. -/
theorem coverageOf?_of_mem (hword : word ∈ directiveWords) (file : String) (number : Nat)
    (before rest : List Char) :
    coverageOf? word.toList before = some (stated file number before word rest).coverage := by
  rcases mem_directiveWords.mp hword with rfl | rfl | rfl
  · by_cases hbefore : before.all isBlank <;> simp [coverageOf?, stated, Text.allBlank, hbefore]
  · simp [coverageOf?, stated]
  · simp [coverageOf?, stated]

/-- Only the word for the file asks for it. -/
theorem coverage_stated_eq_file_iff (hword : word ∈ directiveWords) (file : String) (number : Nat)
    (before rest : List Char) :
    (stated file number before word rest).coverage = .file ↔ word = "ignore-file" := by
  rcases mem_directiveWords.mp hword with rfl | rfl | rfl
  · by_cases hbefore : before.all isBlank <;> simp [stated, hbefore]
  · simp [stated]
  · simp [stated]

/-- What a match with a directive word and a rule states: nothing if it asks for the file where
it may not. -/
theorem ofMatch?_eq_stated {found : Match} (file : String) (number : Nat) (inHeader : Bool)
    (hword : word ∈ directiveWords) (hgroup : found.groups.get? 1 = some word.toList)
    (hrule : found.groups.get? 2 = some (ruleText rest)) :
    ofMatch? file number inHeader found =
      if word = "ignore-file" ∧ inHeader = false ∧ headerLines < number then none
      else some { stated file number found.before word rest with
        reason := String.ofList (trim ((found.groups.get? 3).getD [])) } := by
  have hcoverage := coverageOf?_of_mem hword file number found.before rest
  have hfile := coverage_stated_eq_file_iff hword file number found.before rest
  rw [ofMatch?, hgroup, hrule, Option.getD_some, hcoverage]
  simp only [hfile, Bool.not_eq_true]
  rfl

/-- The leftmost directive is recorded, unless it asks for the file where it may not. The
pattern for block comments is not tried. -/
theorem ofLine?_of_isLeftmost (h : IsLeftmost line i word rest) (hline : '\n' ∉ line)
    {file : String} {number : Nat} {inHeader : Bool}
    (haccepted : ¬ (word = "ignore-file" ∧ inHeader = false ∧ headerLines < number)) :
    ofLine? file number inHeader line = some (stated file number (line.take i) word rest) := by
  obtain ⟨after, hsearch⟩ := exists_search?_of_isLeftmost h hline
  obtain ⟨-, -, -, -, hword, -⟩ := h.isDirective
  have hmatch : ofMatch? file number inHeader ⟨line.take i, directiveGroups word rest, after⟩ =
      some (stated file number (line.take i) word rest) := by
    rw [ofMatch?_eq_stated file number inHeader hword (get?_word word rest) (get?_rule word rest),
      if_neg haccepted, trim_get?_reason]
    rfl
  rw [ofLine?, List.findSome?_cons, hsearch, Option.bind_some, hmatch]

/-- How the directives in the line comments of a line are read. -/
structure ReadsLine (line : List Char) : Prop where
  /-- The pattern matches where there is a directive. -/
  matches_iff : (linePattern.search? line).isSome = true ↔
    ∃ i word rest, IsDirective (line.drop i) word rest
  /-- It finds the leftmost directive, with its word, rule and reason. -/
  search?_eq : ∀ i word rest, IsLeftmost line i word rest →
    ∃ found, linePattern.search? line = some found ∧ found.before = line.take i ∧
      found.groups.get? 1 = some word.toList ∧ found.groups.get? 2 = some (ruleText rest) ∧
      trim ((found.groups.get? 3).getD []) = reasonText rest
  /-- In any text this directive and nothing else is recorded for the line, unless it asks
  for the file below the header. -/
  ofContents_eq : ∀ i word rest, IsLeftmost line i word rest →
    ∀ file contents above below, Text.lines (String.toList contents) = above ++ line :: below →
      ¬ (word = "ignore-file" ∧ allHeader (above ++ [line]) = false ∧ 10 < above.length + 1) →
      ofContents file contents =
        ofLines file 1 true above ++
          stated file (above.length + 1) (line.take i) word rest ::
            ofLines file (above.length + 2) (allHeader (above ++ [line])) below

/-- The line comments of every line are read as their grammar says. -/
theorem readsLine (line : List Char) (hline : '\n' ∉ line) : ReadsLine line where
  matches_iff := by
    rw [Option.isSome_iff_exists]
    constructor
    · rintro ⟨found, hsearch⟩
      exact exists_isDirective_of_search? hsearch
    · intro hexists
      obtain ⟨i, word, rest, h⟩ := exists_isLeftmost hexists
      obtain ⟨after, hsearch⟩ := exists_search?_of_isLeftmost h hline
      exact ⟨_, hsearch⟩
  search?_eq := by
    intro i word rest h
    obtain ⟨after, hsearch⟩ := exists_search?_of_isLeftmost h hline
    exact ⟨_, hsearch, rfl, get?_word word rest, get?_rule word rest, trim_get?_reason word rest⟩
  ofContents_eq := by
    intro i word rest h file contents above below hlines haccepted
    have hheader : (true && allHeader above && isHeaderLine (trim line)) =
        allHeader (above ++ [line]) := by simp [allHeader]
    rw [ofContents, hlines, ofLines_append, ofLines, hheader, Nat.add_comm 1,
      ofLine?_of_isLeftmost h hline haccepted]
    rfl

/-- The directive `// dotcheck:ignore * - old` on a line of its own. -/
theorem readsLine_everyRule : '\n' ∉ "// dotcheck:ignore * - old".toList ∧
    IsLeftmost "// dotcheck:ignore * - old".toList 0 "ignore" "* - old".toList ∧
    ReadsLine "// dotcheck:ignore * - old".toList :=
  have hdirective : IsDirective "// dotcheck:ignore * - old".toList "ignore" "* - old".toList :=
    ⟨[' '], [' '], by decide, List.forall_mem_singleton.mpr rfl, by decide, by decide,
      List.forall_mem_singleton.mpr rfl, '*', " - old".toList, rfl, rfl⟩
  ⟨by decide, ⟨hdirective, fun j hj => absurd hj (Nat.not_lt_zero j)⟩, readsLine _ (by decide)⟩

end LeadingDot.Suppression
