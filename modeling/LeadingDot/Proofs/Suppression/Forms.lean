import LeadingDot.Proofs.Suppression.Locality
import LeadingDot.Proofs.Suppression.Written
import LeadingDot.Proofs.Text.Lines

/-!
# The two forms of a directive

A directive that is written in a line comment and one that is written in a block comment at the
same place of a text are read alike, word for word. The header of the text does not tell them
apart either, as a header line may start with the mark of any comment.
-/

namespace LeadingDot.Suppression

open Text (isBlank trim)

variable {file contents other : String} {above below : List (List Char)} {word : String}
  {before rule after start rest : List Char} {reason? : Option (List Char)} {d : Char}

/-- Whichever mark a line has behind its start, it may stand in the header if the start may, or
if the start is a slash, which makes a mark with the one behind it. -/
theorem isHeaderLine_append_mark (hd : d = '/' ∨ d = '*') :
    isHeaderLine (start ++ '/' :: d :: rest) = true ↔
      isHeaderLine start = true ∨ start = ['/'] := by
  have himport : "import ".toList <+: start ++ '/' :: d :: rest ↔ "import ".toList <+: start :=
    prefix_append_cons_iff (by decide)
  simp only [isHeaderLine, List.any_cons, List.any_nil, Bool.or_false, Bool.or_eq_true,
    List.isEmpty_iff, List.isPrefixOf_iff_prefix, himport]
  -- The marks have two characters, so at most one of them stands across the end of the start.
  rcases start with _ | ⟨e, _ | ⟨f, start⟩⟩
  · rcases hd with rfl | rfl <;> simp
  · have hslash : e = '/' ↔ '/' = e := eq_comm
    simp [or_comm, hslash]
  · simp

/-- The form of a comment does not decide whether its line may stand in the header. -/
theorem isHeaderLine_around (before : List Char) (comment other : Comment) (text : List Char) :
    isHeaderLine (trim (before ++ comment.around text)) =
      isHeaderLine (trim (before ++ other.around text)) := by
  have hheader : ∀ comment : Comment, isHeaderLine (trim (before ++ comment.around text)) = true ↔
      isHeaderLine (Text.trimStart before) = true ∨ Text.trimStart before = ['/'] := by
    intro comment
    obtain ⟨d, hchars, hd, hblank, -⟩ := exists_mark_toList comment.mark_mem
    have hmark : comment.around text = '/' :: d :: ' ' :: (text ++ comment.closing) := by
      rw [Comment.around, hchars]
      rfl
    have htrim : trim (before ++ comment.around text) =
        Text.trimStart before ++ '/' :: d :: Text.trimEnd (' ' :: (text ++ comment.closing)) := by
      rw [hmark, Text.trim_append_cons (by decide)]
      exact congrArg (fun rest => Text.trimStart before ++ '/' :: rest)
        (Text.trimEnd_append_cons hblank [] _)
    rw [htrim, isHeaderLine_append_mark hd]
  rw [Bool.eq_iff_iff, hheader comment, hheader other]

/-- How far the header goes depends on each line by itself. -/
theorem allHeader_take (lines : List (List Char)) (count : Nat) :
    allHeader (lines.take count) =
      ((lines.map fun line => isHeaderLine (trim line)).take count).all id := by
  rw [allHeader, ← List.map_take, List.all_map]
  rfl

/-- How a directive is read from either form of its comment, in two texts that have them on the
same line. -/
structure ReadAlike (file contents other : String) (index : Nat) (word : String)
    (rule : List Char) (reason? : Option (List Char)) : Prop where
  /-- Both lines state the same, if anything. -/
  directiveAt?_eq : directiveAt? file contents index = directiveAt? file other index
  /-- What they state is recorded, with the rule and the reason that are written. -/
  written : ∀ suppression, directiveAt? file contents index = some suppression →
    suppression ∈ ofContents file contents ∧ suppression.rule = String.ofList rule ∧
      suppression.reason = String.ofList (reason?.getD [])
  /-- They state nothing only where a directive asks for the file below the header. -/
  eq_none_iff : directiveAt? file contents index = none ↔
    word = "ignore-file" ∧
      allHeader ((Text.lines contents.toList).take (index + 1)) = false ∧ 10 < index + 1
  /-- The header goes equally far in both texts. -/
  allHeader_eq : ∀ count, allHeader ((Text.lines contents.toList).take count) =
    allHeader ((Text.lines other.toList).take count)
  /-- All suppressions of both texts are the same. -/
  ofContents_eq : ofContents file contents = ofContents file other

/-- A directive is read alike from a line comment and from a block comment, with its rule and
its reason as they are written. -/
theorem readAlike (file contents other : String)
    (hwritten : IsWritten before (.block after) word rule reason?)
    (htrim : ∀ reason ∈ reason?, trim reason = reason)
    (hclose : ∀ reason ∈ reason?, ¬ "*/".toList <:+: reason)
    (hlines : Text.lines contents.toList =
      above ++ (before ++ Comment.line.around (directiveText word rule reason?)) :: below)
    (hother : Text.lines other.toList =
      above ++ (before ++ (Comment.block after).around (directiveText word rule reason?)) ::
        below) :
    ReadAlike file contents other above.length word rule reason? := by
  obtain ⟨reason, hreason, hread⟩ :=
    hwritten.line.exists_ofLine?_eq_stated rfl (Text.not_mem_of_lines_eq hlines)
  obtain ⟨reason', hreason', hread'⟩ :=
    hwritten.exists_ofLine?_eq_stated rfl (Text.not_mem_of_lines_eq hother)
  have hgetD : trim (reason?.getD []) = reason?.getD [] := by
    cases reason? with
    | none => rfl
    | some reason => exact htrim reason rfl
  obtain rfl : reason = reason?.getD [] := (hreason hclose).trans hgetD
  obtain rfl : reason' = reason?.getD [] := (hreason' hclose).trans hgetD
  have hheader := isHeaderLine_around before .line (.block after)
    (directiveText word rule reason?)
  generalize before ++ Comment.line.around (directiveText word rule reason?) = line at *
  generalize before ++ (Comment.block after).around (directiveText word rule reason?) = line' at *
  have hsame : ∀ number inHeader, ofLine? file number inHeader line =
      ofLine? file number inHeader line' :=
    fun number inHeader => (hread file number inHeader).trans (hread' file number inHeader).symm
  have hallHeader : ∀ count, allHeader ((above ++ line :: below).take count) =
      allHeader ((above ++ line' :: below).take count) := by
    intro count
    rw [allHeader_take, allHeader_take]
    simp [hheader]
  have hthere : allHeader (above ++ [line]) = allHeader (above ++ [line']) := by
    rw [← take_length_succ above below, hallHeader, take_length_succ]
  have hdirective : directiveAt? file contents above.length =
      directiveAt? file other above.length := by
    rw [directiveAt?_of_lines hlines, directiveAt?_of_lines hother, hsame, hthere]
  refine ⟨hdirective, ?_, ?_, ?_, ?_⟩
  · intro suppression h
    have hmem : suppression ∈ ofContents file contents := by
      rw [ofContents_of_lines file hlines, h]
      simp
    rw [directiveAt?_of_lines hlines, hread, Option.ite_none_left_eq_some] at h
    obtain ⟨-, h⟩ := h
    obtain rfl := Option.some.inj h
    exact ⟨hmem, congrArg String.ofList hwritten.ruleText_eq, rfl⟩
  · rw [directiveAt?_of_lines hlines, hread, hlines, take_length_succ]
    simp only [ite_eq_left_iff, reduceCtorEq, imp_false, not_not]
    rfl
  · rw [hlines, hother]
    exact hallHeader
  · rw [ofContents_of_lines file hlines, ofContents_of_lines file hother, hdirective, hthere]

/-- A directive behind a slash, with a reason that could almost close its comment. -/
theorem readAlike_almostClosed :
    IsWritten "x = y /".toList (.block []) "ignore" "*".toList (some "/old*".toList) ∧
      trim "/old*".toList = "/old*".toList ∧ ¬ "*/".toList <:+: "/old*".toList ∧
      ReadAlike "A.swift" "import B\nx = y /// dotcheck:ignore * - /old*\n"
        "import B\nx = y //* dotcheck:ignore * - /old* */\n" 1 "ignore" "*".toList
        (some "/old*".toList) := by
  have hwritten : IsWritten "x = y /".toList (.block []) "ignore" "*".toList
      (some "/old*".toList) :=
    .of_colonless (by decide) (by decide) (List.forall_mem_singleton.mpr rfl) (by decide)
  have htrim : trim "/old*".toList = "/old*".toList := by decide +kernel
  have hclose : ¬ "*/".toList <:+: "/old*".toList := by decide
  have hlines : Text.lines "import B\nx = y /// dotcheck:ignore * - /old*\n".toList =
      ["import B".toList] ++ ("x = y /".toList ++ Comment.line.around
        (directiveText "ignore" "*".toList (some "/old*".toList))) :: [] := by
    decide +kernel
  have hother : Text.lines "import B\nx = y //* dotcheck:ignore * - /old* */\n".toList =
      ["import B".toList] ++ ("x = y /".toList ++ (Comment.block []).around
        (directiveText "ignore" "*".toList (some "/old*".toList))) :: [] := by
    decide +kernel
  refine ⟨hwritten, htrim, hclose, readAlike "A.swift" _ _ hwritten ?_ ?_ hlines hother⟩
  · rintro _ ⟨⟩
    exact htrim
  · rintro _ ⟨⟩
    exact hclose

end LeadingDot.Suppression
