import LeadingDot.Proofs.Suppression.BlockComment

/-!
# Written directives

A directive is written as a comment behind any text and is read back from its line, as long
as the name of the tool stands nowhere else on the line. Each match takes the name, so no
pattern matches at another place, and only the pattern of the comment matches there.
-/

namespace LeadingDot.Suppression

open Text (Pattern isBlank trim)
open Text.Pattern

section Names

variable {name xs ys zs before after rest start : List Char} {c : Char}

/-- A name stands on one side of a character that it does not hold. -/
theorem split_of_not_mem (hc : c ∉ name) (h : before ++ name ++ after = xs ++ c :: ys) :
    (∃ zs, xs = before ++ name ++ zs ∧ after = zs ++ c :: ys) ∨
      ∃ zs, before = xs ++ c :: zs ∧ ys = zs ++ name ++ after := by
  rcases List.append_eq_append_iff.mp h with ⟨zs, hxs, hafter⟩ | ⟨zs, hname, hys⟩
  · exact Or.inl ⟨zs, hxs, hafter⟩
  · rcases List.append_eq_append_iff.mp hname with ⟨ws, rfl, rfl⟩ | ⟨ws, rfl, rfl⟩
    · -- The name ends at the character, as it would hold it otherwise.
      cases zs with
      | nil => exact Or.inl ⟨[], by simp, hys.symm⟩
      | cons d zs =>
        obtain ⟨rfl, -⟩ := List.cons.inj hys
        exact absurd (List.mem_append_right ws List.mem_cons_self) hc
    · cases ws with
      | nil =>
        cases name with
        | nil => exact Or.inl ⟨[], by simp, hys.symm⟩
        | cons d name =>
          obtain ⟨rfl, -⟩ := List.cons.inj hys
          exact absurd List.mem_cons_self hc
      | cons d ws =>
        obtain ⟨rfl, rfl⟩ := List.cons.inj hys
        exact Or.inr ⟨ws, rfl, rfl⟩

theorem infix_append_cons_iff (hc : c ∉ name) :
    name <:+: xs ++ c :: ys ↔ name <:+: xs ∨ name <:+: ys := by
  constructor
  · rintro ⟨before, after, h⟩
    rcases split_of_not_mem hc h with ⟨zs, rfl, -⟩ | ⟨zs, -, rfl⟩
    · exact Or.inl ⟨before, zs, rfl⟩
    · exact Or.inr ⟨zs, after, rfl⟩
  · rintro (hxs | hys)
    · exact hxs.trans (List.prefix_append xs _).isInfix
    · exact hys.trans ((List.suffix_cons c ys).trans (List.suffix_append xs _)).isInfix

theorem prefix_append_cons_iff (hc : c ∉ name) : name <+: xs ++ c :: ys ↔ name <+: xs := by
  constructor
  · rintro ⟨later, h⟩
    have h : [] ++ name ++ later = xs ++ c :: ys := h
    rcases split_of_not_mem hc h with ⟨zs, rfl, -⟩ | ⟨zs, hnil, -⟩
    · exact ⟨zs, rfl⟩
    · exact absurd hnil.symm (by simp)
  · exact fun h => h.trans (List.prefix_append xs _)

/-- A text that does not name the tool. -/
def Unnamed (cs : List Char) : Prop := ¬ "dotcheck:".toList <:+: cs

/-- A text without some character of the name does not name the tool. -/
theorem unnamed_of_not_mem (hc : c ∈ "dotcheck:".toList) (h : c ∉ xs) : Unnamed xs :=
  fun hname => h (hname.subset hc)

@[simp] theorem unnamed_nil : Unnamed [] :=
  unnamed_of_not_mem (by decide : 'd' ∈ "dotcheck:".toList) List.not_mem_nil

theorem unnamed_append_cons_iff (hc : c ∉ "dotcheck:".toList) :
    Unnamed (xs ++ c :: ys) ↔ Unnamed xs ∧ Unnamed ys :=
  (not_congr (infix_append_cons_iff hc)).trans not_or

/-- The name does not overlap itself, so it stands first only where it begins. -/
theorem eq_nil_of_name_append (hrest : Unnamed rest)
    (h : "dotcheck:".toList ++ rest = zs ++ "dotcheck:".toList ++ after) : zs = [] := by
  cases zs with
  | nil => rfl
  | cons d zs =>
    -- Behind its first character the name does not hold this character again.
    have htail : [] ++ "otcheck:".toList ++ rest = zs ++ 'd' :: ("otcheck:".toList ++ after) :=
      (List.cons.inj h).2.trans (List.append_assoc ..)
    rcases split_of_not_mem (by decide) htail with ⟨ws, -, rfl⟩ | ⟨ws, hnil, -⟩
    · exact absurd ⟨ws, after, List.append_assoc ..⟩ hrest
    · exact absurd hnil.symm (by simp)

/-- Behind a text that does not name the tool, the name stands only where it is written. -/
theorem eq_of_named (hstart : Unnamed start) (hrest : Unnamed rest)
    (h : start ++ ' ' :: ("dotcheck:".toList ++ rest) = xs ++ "dotcheck:".toList ++ ys) :
    xs = start ++ [' '] := by
  rcases split_of_not_mem (by decide) h.symm with ⟨zs, rfl, -⟩ | ⟨zs, rfl, hzs⟩
  · exact absurd ⟨xs, zs, rfl⟩ hstart
  · rw [eq_nil_of_name_append hrest hzs]

end Names

/-- A comment of one line: it runs to the end of the line, or it is closed and something
stands after it. -/
inductive Comment where
  | line
  | block (after : List Char)

namespace Comment

/-- The mark that opens a comment. -/
def mark : Comment → String
  | line => "//"
  | block _ => "/*"

/-- What stands on the line after the comment. -/
def after : Comment → List Char
  | line => []
  | block after => after

/-- What ends a comment, with what stands after it. -/
def closing : Comment → List Char
  | line => []
  | block after => " */".toList ++ after

/-- The pattern that reads a comment. -/
def pattern : Comment → Pattern
  | line => linePattern
  | block _ => blockPattern

/-- The comment with a text in it. -/
def around (comment : Comment) (text : List Char) : List Char :=
  comment.mark.toList ++ ' ' :: (text ++ comment.closing)

end Comment

/-- A reason as it follows the rule, if there is one. -/
def note : Option (List Char) → List Char
  | none => []
  | some reason => " - ".toList ++ reason

/-- A directive as it stands in a comment. -/
def directiveText (word : String) (rule : List Char) (reason? : Option (List Char)) :
    List Char :=
  "dotcheck:".toList ++ (word.toList ++ ' ' :: (rule ++ note reason?))

/-- A line on which a directive is written: a text, then the comment with a word, a rule
without blanks and perhaps a reason. Nothing else names the tool. -/
structure IsWritten (before : List Char) (comment : Comment) (word : String) (rule : List Char)
    (reason? : Option (List Char)) : Prop where
  word_mem : word ∈ directiveWords
  rule_ne : rule ≠ []
  rule_ink : ∀ c ∈ rule, isBlank c = false
  unnamed_before : Unnamed before
  unnamed_rule : Unnamed rule
  unnamed_reason : ∀ reason ∈ reason?, Unnamed reason
  unnamed_after : Unnamed comment.after

variable {word : String} {rule before : List Char} {reason? : Option (List Char)}
  {comment : Comment} {groups : Groups} {i : Nat}

/-- What the pattern of a comment takes starts with its mark, blanks and the name. -/
theorem exists_of_accepts {mark : String} {patterns : List Pattern} {used : List Char}
    (h : (Pattern.sequence (.literal mark :: directivePattern :: patterns)).Accepts used) :
    ∃ gap rest, used = mark.toList ++ gap ++ "dotcheck:".toList ++ rest ∧
      ∀ c ∈ gap, isBlank c = true := by
  obtain ⟨_, _, rfl, hmark, h⟩ := accepts_sequence_cons.mp h
  obtain ⟨_, rest, rfl, hdirective, -⟩ := accepts_sequence_cons.mp h
  rw [directivePattern, accepts_sequence_cons] at hdirective
  obtain ⟨gap, _, rfl, hgap, hdirective⟩ := hdirective
  obtain ⟨_, words, rfl, hname, -⟩ := accepts_sequence_cons.mp hdirective
  refine ⟨gap, words ++ rest, ?_, hgap⟩
  rw [accepts_literal.mp hmark, accepts_literal.mp hname]
  simp only [List.append_assoc]

/-- Where a pattern of a comment matches there stand its mark, blanks and the name. -/
theorem exists_of_matchHere? {mark : String} {patterns : List Pattern} {cs : List Char}
    {found : Groups × List Char}
    (h : (Pattern.sequence (.literal mark :: directivePattern :: patterns)).matchHere? cs =
      some found) :
    ∃ gap rest, cs = mark.toList ++ gap ++ "dotcheck:".toList ++ rest ∧
      ∀ c ∈ gap, isBlank c = true := by
  obtain ⟨used, after, kept, rfl, hused, -⟩ := exists_of_run h
  obtain ⟨gap, rest, rfl, hgap⟩ := exists_of_accepts hused
  exact ⟨gap, rest ++ after, List.append_assoc .., hgap⟩

/-- A mark is a slash and a second slash or a star, which are not blank and not in the name of
the tool. -/
theorem exists_mark_toList {mark : String} (hmark : mark ∈ ["//", "/*"]) :
    ∃ d, mark.toList = ['/', d] ∧ (d = '/' ∨ d = '*') ∧ isBlank d = false ∧
      d ∉ "dotcheck:".toList := by
  simp only [List.mem_cons, List.not_mem_nil, or_false] at hmark
  rcases hmark with rfl | rfl
  · exact ⟨'/', rfl, Or.inl rfl, by decide, by decide⟩
  · exact ⟨'*', rfl, Or.inr rfl, by decide, by decide⟩

/-- The marks end in a character that is not blank, so the blanks behind one are told from it. -/
theorem trimEnd_mark {mark : String} {gap : List Char} (hmark : mark ∈ ["//", "/*"])
    (hgap : ∀ c ∈ gap, isBlank c = true) (cs : List Char) :
    Text.trimEnd (cs ++ mark.toList ++ gap) = cs ++ mark.toList := by
  obtain ⟨d, hchars, -, hd, -⟩ := exists_mark_toList hmark
  rw [Text.trimEnd_append_of_blank hgap, hchars, List.append_cons]
  exact Text.trimEnd_append_cons hd (cs ++ ['/']) []

/-- A mark and the text before it can be told from both and the blanks behind them. -/
theorem mark_inj {mark other : String} {xs ys gap space : List Char} (hmark : mark ∈ ["//", "/*"])
    (hother : other ∈ ["//", "/*"]) (hgap : ∀ c ∈ gap, isBlank c = true)
    (hspace : ∀ c ∈ space, isBlank c = true)
    (h : xs ++ mark.toList ++ gap = ys ++ other.toList ++ space) : xs = ys ∧ mark = other := by
  have hmarks := congrArg Text.trimEnd h
  rw [trimEnd_mark hmark hgap, trimEnd_mark hother hspace] at hmarks
  have hlength : ∀ mark ∈ ["//", "/*"], mark.toList.length = 2 := by decide
  have hsplit := List.append_inj' hmarks ((hlength mark hmark).trans (hlength other hother).symm)
  exact ⟨hsplit.1, String.toList_inj.mp hsplit.2⟩

theorem Comment.mark_mem (comment : Comment) : comment.mark ∈ ["//", "/*"] := by
  cases comment <;> simp [Comment.mark]

/-- The parts of a comment with a directive. -/
theorem around_directiveText (comment : Comment) (word : String) (rule : List Char)
    (reason? : Option (List Char)) :
    comment.around (directiveText word rule reason?) =
      comment.mark.toList ++ [' '] ++ "dotcheck:".toList ++ word.toList ++ [' '] ++
        (rule ++ (note reason? ++ comment.closing)) := by
  unfold Comment.around directiveText
  generalize "dotcheck:".toList = name
  simp

/-- The parts of the line on both sides of the name. -/
theorem append_around_directiveText (before : List Char) (comment : Comment) (word : String)
    (rule : List Char) (reason? : Option (List Char)) :
    before ++ comment.around (directiveText word rule reason?) =
      before ++ comment.mark.toList ++ ' ' :: ("dotcheck:".toList ++
        (word.toList ++ ' ' :: (rule ++ note reason? ++ comment.closing))) := by
  rw [around_directiveText]
  generalize "dotcheck:".toList = name
  simp

theorem isBlank_of_mem_space : ∀ c ∈ [' '], isBlank c = true :=
  List.forall_mem_singleton.mpr rfl

namespace IsWritten

/-- Without a colon nothing names the tool. -/
theorem of_colonless (hword : word ∈ directiveWords) (hrule : rule ≠ [])
    (hink : ∀ c ∈ rule, isBlank c = false)
    (hcolon : ':' ∉ before ++ rule ++ reason?.getD [] ++ comment.after) :
    IsWritten before comment word rule reason? := by
  have hname : ':' ∈ "dotcheck:".toList := by decide
  simp only [List.mem_append, not_or] at hcolon
  obtain ⟨⟨⟨hbefore, hcolon⟩, hreason⟩, hafter⟩ := hcolon
  refine ⟨hword, hrule, hink, unnamed_of_not_mem hname hbefore, unnamed_of_not_mem hname hcolon,
    ?_, unnamed_of_not_mem hname hafter⟩
  rintro reason rfl
  exact unnamed_of_not_mem hname hreason

/-- The same directive may stand in a line comment. -/
theorem line (h : IsWritten before comment word rule reason?) :
    IsWritten before .line word rule reason? :=
  { h with unnamed_after := unnamed_nil }

theorem unnamed_start (h : IsWritten before comment word rule reason?) :
    Unnamed (before ++ comment.mark.toList) := by
  obtain ⟨d, hchars, -, -, hd⟩ := exists_mark_toList comment.mark_mem
  rw [hchars, unnamed_append_cons_iff (by decide)]
  exact ⟨h.unnamed_before, (unnamed_append_cons_iff hd).mpr ⟨unnamed_nil, unnamed_nil⟩⟩

theorem unnamed_word (h : IsWritten before comment word rule reason?) : Unnamed word.toList := by
  have hwords : ∀ word ∈ directiveWords, 'd' ∉ word.toList := by decide
  exact unnamed_of_not_mem (by decide) (hwords word h.word_mem)

theorem unnamed_note (h : IsWritten before comment word rule reason?) :
    Unnamed (rule ++ note reason?) := by
  cases reason? with
  | none => exact (List.append_nil rule).symm ▸ h.unnamed_rule
  | some reason =>
    have hnote : note (some reason) = ' ' :: ([] ++ '-' :: ([] ++ ' ' :: reason)) := rfl
    have hreason := h.unnamed_reason reason rfl
    rw [hnote]
    simp only [unnamed_append_cons_iff (by decide : ' ' ∉ "dotcheck:".toList),
      unnamed_append_cons_iff (by decide : '-' ∉ "dotcheck:".toList), unnamed_nil, true_and,
      h.unnamed_rule, hreason]

theorem unnamed_rest (h : IsWritten before comment word rule reason?) :
    Unnamed (word.toList ++ ' ' :: (rule ++ note reason? ++ comment.closing)) := by
  have hspace : ' ' ∉ "dotcheck:".toList := by decide
  refine (unnamed_append_cons_iff hspace).mpr ⟨h.unnamed_word, ?_⟩
  cases comment with
  | line => exact (List.append_nil _).symm ▸ h.unnamed_note
  | block after =>
    have hclosing : (Comment.block after).closing =
        ' ' :: ([] ++ '*' :: ([] ++ '/' :: after)) := rfl
    have hafter : Unnamed after := h.unnamed_after
    rw [hclosing]
    simp only [unnamed_append_cons_iff hspace,
      unnamed_append_cons_iff (by decide : '*' ∉ "dotcheck:".toList),
      unnamed_append_cons_iff (by decide : '/' ∉ "dotcheck:".toList), unnamed_nil, true_and,
      h.unnamed_note, hafter]

/-- Whatever pattern of a comment matches somewhere on the line matches at the comment that
is written, and it has the mark of this comment. -/
theorem place_of_matchHere? {line : List Char} {mark : String} {patterns : List Pattern}
    {found : Groups × List Char} (h : IsWritten before comment word rule reason?)
    (hline : line = before ++ comment.around (directiveText word rule reason?))
    (hmark : mark ∈ ["//", "/*"])
    (hmatch : (Pattern.sequence (.literal mark :: directivePattern :: patterns)).matchHere?
      (line.drop i) = some found) :
    line.take i = before ∧ mark = comment.mark := by
  obtain ⟨gap, rest, hdrop, hgap⟩ := exists_of_matchHere? hmatch
  have hsplit : before ++ comment.mark.toList ++ ' ' :: ("dotcheck:".toList ++
      (word.toList ++ ' ' :: (rule ++ note reason? ++ comment.closing))) =
        line.take i ++ mark.toList ++ gap ++ "dotcheck:".toList ++ rest := by
    calc _ = line := (hline.trans (append_around_directiveText ..)).symm
      _ = line.take i ++ line.drop i := (List.take_append_drop i line).symm
      _ = _ := by
        rw [hdrop]
        simp only [List.append_assoc]
  exact mark_inj hmark comment.mark_mem hgap isBlank_of_mem_space
    (eq_of_named h.unnamed_start h.unnamed_rest hsplit)

end IsWritten

/-- Groups that tell the word and the rule of a directive and, unless it holds a closing mark,
the reason. -/
structure Tells (groups : Groups) (word : String) (rule : List Char)
    (reason? : Option (List Char)) : Prop where
  word_eq : groups.get? 1 = some word.toList
  rule_eq : groups.get? 2 = some rule
  reason_eq : (∀ reason ∈ reason?, ¬ "*/".toList <:+: reason) →
    trim ((groups.get? 3).getD []) = trim (reason?.getD [])

/-- A rule ends where a blank stands behind it. -/
theorem ruleText_append {tail : List Char} (hrule : ∀ c ∈ rule, isBlank c = false)
    (htail : ∀ c ∈ tail.head?, isBlank c = true) :
    ruleText (rule ++ tail) = rule ∧ (rule ++ tail).dropWhile isInk = tail := by
  have hink : ∀ c ∈ rule, isInk c = true := by
    intro c hc
    simp [isInk, hrule c hc]
  rw [ruleText, List.takeWhile_append_of_pos hink, List.dropWhile_append_of_pos hink]
  cases tail with
  | nil => simp
  | cons c tail =>
    have hc : ¬ isInk c = true := by simp [isInk, htail c rfl]
    rw [List.takeWhile_cons_of_neg hc, List.dropWhile_cons_of_neg hc, List.append_nil]
    exact ⟨rfl, rfl⟩

/-- A text with a closing mark has a first one. -/
theorem exists_first_mark {cs : List Char} (h : "*/".toList <:+: cs) :
    ∃ reason after, cs = reason ++ ("*/".toList ++ after) ∧ ¬ "*/".toList <:+: reason := by
  induction cs with
  | nil => exact absurd (List.infix_nil.mp h) (by decide)
  | cons c cs ih =>
    by_cases hprefix : "*/".toList <+: c :: cs
    · obtain ⟨after, hafter⟩ := hprefix
      exact ⟨[], after, hafter.symm, by decide⟩
    · obtain ⟨reason, after, rfl, hreason⟩ :=
        ih ((List.infix_cons_iff.mp h).resolve_left hprefix)
      refine ⟨c :: reason, after, rfl, fun hmark => ?_⟩
      rcases List.infix_cons_iff.mp hmark with hstart | hlater
      · exact hprefix (hstart.trans ⟨"*/".toList ++ after, rfl⟩)
      · exact hreason hlater

/-- In a block comment the reason is read up to the first closing mark. -/
theorem exists_read (reason after : List Char) :
    ∃ read later, ' ' :: (reason ++ ' ' :: ("*/".toList ++ after)) =
        read ++ ("*/".toList ++ later) ∧ ¬ "*/".toList <:+: read ∧
      (¬ "*/".toList <:+: reason → trim read = trim reason) := by
  by_cases hclose : "*/".toList <:+: reason
  · have hmark : "*/".toList <:+: ' ' :: (reason ++ ' ' :: ("*/".toList ++ after)) :=
      hclose.trans ⟨[' '], ' ' :: ("*/".toList ++ after), rfl⟩
    obtain ⟨read, later, hsplit, hread⟩ := exists_first_mark hmark
    exact ⟨read, later, hsplit, hread, fun hnot => absurd hclose hnot⟩
  · have hspace : ' ' ∉ "*/".toList := by decide
    refine ⟨[' '] ++ (reason ++ [' ']), after, by simp, fun hread => ?_, fun _ => ?_⟩
    · have hread : "*/".toList <:+: [] ++ ' ' :: (reason ++ ' ' :: []) := hread
      rcases (infix_append_cons_iff hspace).mp hread with hnil | hread
      · exact absurd (List.infix_nil.mp hnil) (by decide)
      · rcases (infix_append_cons_iff hspace).mp hread with hreason | hnil
        · exact hclose hreason
        · exact absurd (List.infix_nil.mp hnil) (by decide)
    · rw [Text.trim_blank_append isBlank_of_mem_space,
        Text.trim_append_of_blank isBlank_of_mem_space]

/-- Behind the rule a block comment goes on with its reason, if there is one, and ends. -/
theorem exists_run_blockReasonPattern (word : String) (rule after : List Char)
    (hnote : '\n' ∉ note reason? ++ (Comment.block after).closing) :
    ∃ groups rest, blockReasonPattern.run (note reason? ++ (Comment.block after).closing)
      [(2, rule), (1, word.toList)] (fun rest kept => some (kept, rest)) = some (groups, rest) ∧
        Tells groups word rule reason? := by
  cases reason? with
  | none =>
    exact ⟨_, after, run_blockReasonPattern_close isBlank_of_mem_space rfl, rfl, rfl, fun _ => rfl⟩
  | some reason =>
    obtain ⟨read, later, hsplit, hread, htrim⟩ := exists_read reason after
    have hcs : note (some reason) ++ (Comment.block after).closing =
        [' '] ++ '-' :: (read ++ ("*/".toList ++ later)) := by
      rw [← hsplit]
      simp [note, Comment.closing]
    rw [hcs] at hnote ⊢
    have hreason : '\n' ∉ read := fun hmem => hnote (by simp [hmem])
    refine ⟨_, later, run_blockReasonPattern_dash isBlank_of_mem_space hread hreason rfl, rfl, rfl,
      fun hclose => ?_⟩
    calc trim (trim read) = trim (Text.trimStart read) := Text.trim_trimEnd _
      _ = trim read := Text.trim_dropWhile_isBlank read
      _ = trim reason := htrim (hclose reason rfl)

/-- The patterns of both comments begin alike, each with its mark. -/
theorem Comment.exists_pattern_eq (comment : Comment) : ∃ patterns, comment.pattern =
    .sequence (.literal comment.mark :: directivePattern :: patterns) := by
  cases comment with
  | line => exact ⟨_, rfl⟩
  | block after => exact ⟨_, rfl⟩

/-- A line that states a suppression holds what the pattern of a comment takes. -/
theorem exists_accepts_of_ofLine? {file : String} {number : Nat} {inHeader : Bool}
    {line : List Char} {suppression : Suppression}
    (h : ofLine? file number inHeader line = some suppression) :
    ∃ (comment : Comment) (before used after : List Char), line = before ++ used ++ after ∧
      comment.pattern.Accepts used := by
  obtain ⟨pattern, hmem, h⟩ := List.exists_of_findSome?_eq_some h
  obtain ⟨comment, rfl⟩ : ∃ comment : Comment, comment.pattern = pattern := by
    rcases List.mem_cons.mp hmem with rfl | hmem
    · exact ⟨.line, rfl⟩
    · exact ⟨.block [], (List.mem_singleton.mp hmem).symm⟩
  obtain ⟨found, hsearch, -⟩ := Option.bind_eq_some_iff.mp h
  obtain ⟨i, groups, rest, hmatch⟩ := exists_of_search? hsearch
  obtain ⟨used, after, kept, hdrop, hused, -⟩ := exists_of_run hmatch
  refine ⟨comment, line.take i, used, after, ?_, hused⟩
  rw [List.append_assoc, ← hdrop, List.take_append_drop]

namespace IsWritten

variable {line : List Char}

/-- The rule is all that is read of itself. -/
theorem ruleText_eq (h : IsWritten before comment word rule reason?) : ruleText rule = rule :=
  List.takeWhile_eq_self_iff.mpr fun c hc => by simp [isInk, h.rule_ink c hc]

/-- The written directive is found in a line comment. -/
theorem exists_matchHere?_line (h : IsWritten before .line word rule reason?)
    (hfeed : '\n' ∉ Comment.line.around (directiveText word rule reason?)) :
    ∃ groups after, linePattern.matchHere?
      (Comment.line.around (directiveText word rule reason?)) = some (groups, after) ∧
        Tells groups word rule reason? := by
  have hdirective : IsDirective (Comment.line.around (directiveText word rule reason?)) word
      (rule ++ note reason?) := by
    obtain ⟨c, tail, hrule⟩ := List.exists_cons_of_ne_nil h.rule_ne
    have hc : isBlank c = false := h.rule_ink c (hrule ▸ List.mem_cons_self)
    refine ⟨[' '], [' '], ?_, isBlank_of_mem_space, h.word_mem, List.cons_ne_nil _ _,
      isBlank_of_mem_space, c, tail ++ note reason?, by rw [hrule, List.cons_append], hc⟩
    rw [around_directiveText, Comment.closing, List.append_nil]
    rfl
  have htail : ∀ c ∈ (note reason?).head?, isBlank c = true := by
    cases reason? with
    | none => exact fun _ hc => nomatch hc
    | some reason => exact fun _ hc => Option.some.inj hc ▸ rfl
  obtain ⟨hruleText, hdrop⟩ := ruleText_append h.rule_ink htail
  obtain ⟨after, hmatch⟩ := exists_matchHere?_of_isDirective hdirective hfeed
  refine ⟨_, after, hmatch, get?_word _ _, (get?_rule _ _).trans (congrArg some hruleText),
    fun _ => ?_⟩
  rw [trim_get?_reason, reasonText, hdrop]
  cases reason? with
  | none => rfl
  | some reason => exact Text.trim_blank_append isBlank_of_mem_space

/-- The written directive is found in a block comment. -/
theorem exists_matchHere?_block {after : List Char}
    (h : IsWritten before (.block after) word rule reason?)
    (hfeed : '\n' ∉ (Comment.block after).around (directiveText word rule reason?)) :
    ∃ groups rest, blockPattern.matchHere?
      ((Comment.block after).around (directiveText word rule reason?)) = some (groups, rest) ∧
        Tells groups word rule reason? := by
  rw [around_directiveText] at hfeed ⊢
  have hnote : '\n' ∉ note reason? ++ (Comment.block after).closing := fun hmem =>
    hfeed (List.mem_append_right _ (List.mem_append_right _ hmem))
  have htail : ∀ c ∈ (note reason? ++ (Comment.block after).closing).head?, isBlank c = true := by
    cases reason? with
    | none => exact fun _ hc => Option.some.inj hc ▸ rfl
    | some reason => exact fun _ hc => Option.some.inj hc ▸ rfl
  obtain ⟨hruleText, hdrop⟩ := ruleText_append h.rule_ink htail
  obtain ⟨groups, rest, hrun, htells⟩ := exists_run_blockReasonPattern word rule after hnote
  have hnext : (Pattern.sequence [blockReasonPattern]).run
      ((rule ++ (note reason? ++ (Comment.block after).closing)).dropWhile isInk)
      [(2, ruleText (rule ++ (note reason? ++ (Comment.block after).closing))), (1, word.toList)]
      (fun rest kept => some (kept, rest)) = some (groups, rest) := by
    rw [hdrop, hruleText]
    exact hrun
  obtain ⟨c, tail, rfl⟩ := List.exists_cons_of_ne_nil h.rule_ne
  have hc : isBlank c = false := h.rule_ink c List.mem_cons_self
  refine ⟨groups, rest, ?_, htells⟩
  rw [matchHere?_blockPattern]
  exact run_opening "/*" isBlank_of_mem_space h.word_mem (List.cons_ne_nil _ _)
    isBlank_of_mem_space (List.dropWhile_cons_of_neg (by simp [hc]))
    (fun d cs groups hd => run_rule_of_isBlank hd _ cs groups) (run_rule hc hnext)

/-- The written directive is found in its comment. -/
theorem exists_matchHere?_around (h : IsWritten before comment word rule reason?)
    (hfeed : '\n' ∉ comment.around (directiveText word rule reason?)) :
    ∃ groups rest, comment.pattern.matchHere?
      (comment.around (directiveText word rule reason?)) = some (groups, rest) ∧
        Tells groups word rule reason? := by
  cases comment with
  | line => exact h.exists_matchHere?_line hfeed
  | block after => exact h.exists_matchHere?_block hfeed

/-- The search with the pattern of the comment finds the comment. -/
theorem exists_search?_pattern (h : IsWritten before comment word rule reason?)
    (hline : line = before ++ comment.around (directiveText word rule reason?))
    (hfeed : '\n' ∉ line) :
    ∃ groups rest, comment.pattern.search? line = some ⟨before, groups, rest⟩ ∧
      Tells groups word rule reason? := by
  have hdrop : line.drop before.length = comment.around (directiveText word rule reason?) := by
    rw [hline, List.drop_left]
  obtain ⟨groups, rest, hmatch, htells⟩ := h.exists_matchHere?_around fun hmem =>
    hfeed (hline ▸ List.mem_append_right before hmem)
  obtain ⟨patterns, hpattern⟩ := comment.exists_pattern_eq
  have hlength : before.length ≤ line.length := by simp [hline]
  refine ⟨groups, rest, ?_, htells⟩
  rw [search?_eq_some (fun j hj => ?_) hlength (hdrop ▸ hmatch), hline, List.take_left]
  rw [hpattern, Option.eq_none_iff_forall_ne_some]
  intro found hfound
  have htake := (h.place_of_matchHere? hline comment.mark_mem hfound).1
  have hj' := congrArg List.length htake
  rw [List.length_take_of_le (by omega)] at hj'
  omega

/-- The search with the pattern of the other comment finds nothing. -/
theorem search?_eq_none (h : IsWritten before comment word rule reason?) (other : Comment)
    (hline : line = before ++ comment.around (directiveText word rule reason?))
    (hother : other.mark ≠ comment.mark) : other.pattern.search? line = none := by
  rw [Option.eq_none_iff_forall_ne_some]
  intro found hfound
  obtain ⟨i, groups, rest, hmatch⟩ := exists_of_search? hfound
  obtain ⟨patterns, hpattern⟩ := other.exists_pattern_eq
  rw [hpattern] at hmatch
  exact hother (h.place_of_matchHere? hline other.mark_mem hmatch).2

/-- The line is read through its comment alone. -/
theorem exists_ofLine?_eq (h : IsWritten before comment word rule reason?)
    (hline : line = before ++ comment.around (directiveText word rule reason?))
    (hfeed : '\n' ∉ line) :
    ∃ groups rest, Tells groups word rule reason? ∧ ∀ file number inHeader,
      ofLine? file number inHeader line =
        ofMatch? file number inHeader ⟨before, groups, rest⟩ := by
  obtain ⟨groups, rest, hsearch, htells⟩ := h.exists_search?_pattern hline hfeed
  refine ⟨groups, rest, htells, fun file number inHeader => ?_⟩
  cases comment with
  | line =>
    have hblock : blockPattern.search? line = none :=
      h.search?_eq_none (.block []) hline (by decide : "/*" ≠ "//")
    have hfound : linePattern.search? line = some ⟨before, groups, rest⟩ := hsearch
    rw [ofLine?, List.findSome?_cons, hfound, Option.bind_some, List.findSome?_cons, hblock]
    cases ofMatch? file number inHeader ⟨before, groups, rest⟩ <;> rfl
  | block after =>
    have hnone : linePattern.search? line = none :=
      h.search?_eq_none .line hline (by decide : "//" ≠ "/*")
    have hfound : blockPattern.search? line = some ⟨before, groups, rest⟩ := hsearch
    rw [ofLine?, List.findSome?_cons, hnone, Option.bind_none, List.findSome?_cons, hfound]
    cases hmatch : ofMatch? file number inHeader ⟨before, groups, rest⟩ <;> simp [hmatch]

/-- The line states the directive, unless it asks for the file where it may not. -/
theorem exists_ofLine?_eq_stated (h : IsWritten before comment word rule reason?)
    (hline : line = before ++ comment.around (directiveText word rule reason?))
    (hfeed : '\n' ∉ line) :
    ∃ reason, ((∀ reason ∈ reason?, ¬ "*/".toList <:+: reason) →
        reason = trim (reason?.getD [])) ∧
      ∀ file number inHeader, ofLine? file number inHeader line =
        if word = "ignore-file" ∧ inHeader = false ∧ headerLines < number then none
        else some { stated file number before word rule with reason := String.ofList reason } := by
  obtain ⟨groups, rest, htells, hread⟩ := h.exists_ofLine?_eq hline hfeed
  have hrule : groups.get? 2 = some (ruleText rule) :=
    htells.rule_eq.trans (congrArg some h.ruleText_eq.symm)
  refine ⟨trim ((groups.get? 3).getD []), htells.reason_eq, fun file number inHeader => ?_⟩
  exact (hread file number inHeader).trans
    (ofMatch?_eq_stated file number inHeader h.word_mem htells.word_eq hrule)

end IsWritten

end LeadingDot.Suppression
