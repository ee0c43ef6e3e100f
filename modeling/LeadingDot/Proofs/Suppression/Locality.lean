import LeadingDot.Proofs.Suppression.Directives

/-!
# Directives are local to their line

What a line states does not depend on the other lines, with one exception: a directive for
the file is refused below the header. A refused directive gives way to a block comment on the
same line, but never to another directive for the file. Every line can therefore be read as if
it stood first, and the place of the line decides only what is refused and which number is
recorded.
-/

namespace LeadingDot.Suppression

open Text (Pattern)

section Lists

variable {α β γ : Type} {f : α → Option β} {p : β → Bool}

/-- What is found first is still found first, and changed, if it passes a test that drops
others. -/
theorem findSome?_filter_map {xs : List α} (g : β → γ)
    (h : ∀ found, xs.findSome? f = some found → p found = true) :
    (xs.findSome? fun x => ((f x).filter p).map g) = (xs.findSome? f).map g := by
  induction xs with
  | nil => rfl
  | cons x xs ih =>
    rw [List.findSome?_cons] at h
    rw [List.findSome?_cons, List.findSome?_cons]
    cases hx : f x with
    | none =>
      rw [hx] at h
      exact ih h
    | some found =>
      rw [hx] at h
      rw [Option.filter_some_pos (h found rfl)]
      rfl

end Lists

variable {file name contents : String} {number : Nat} {inHeader first : Bool}
  {line : List Char} {lines : List (List Char)} {suppression : Suppression}

/-- The suppression that a text states on the line with an index. -/
def directiveAt? (file contents : String) (index : Nat) : Option Suppression :=
  (Text.lines contents.toList)[index]?.bind
    (ofLine? file (index + 1) (allHeader ((Text.lines contents.toList).take (index + 1))))

/-- Whether a suppression may stand on a line with a number: one for the file only in the
header or among the first lines. -/
def standsAt (inHeader : Bool) (number : Nat) (suppression : Suppression) : Bool :=
  suppression.coverage != .file || inHeader || decide (number ≤ headerLines)

/-- A suppression as it is recorded for a file and a line. -/
def recordedAt (file : String) (number : Nat) (suppression : Suppression) : Suppression :=
  { suppression with file, line := if suppression.coverage = .file then 0 else number }

/-- On the first line nothing is refused, so a match states elsewhere what it states there,
unless it is refused. -/
theorem ofMatch?_eq (file name : String) (number : Nat) (inHeader first : Bool)
    (found : Pattern.Match) :
    ofMatch? file number inHeader found =
      ((ofMatch? name 1 first found).filter (standsAt inHeader number)).map
        (recordedAt file number) := by
  unfold ofMatch?
  cases coverageOf? ((found.groups.get? 1).getD []) found.before with
  | none => rfl
  | some coverage =>
    have hfirst : ¬ (coverage = .file ∧ ¬ first = true ∧ headerLines < 1) := by
      rintro ⟨-, -, hlt⟩
      exact absurd hlt (by decide)
    simp only [if_neg hfirst]
    split
    · next hrefused =>
      obtain ⟨rfl, hheader, hnumber⟩ := hrefused
      rw [Option.filter_some_neg]
      · rfl
      · simp [standsAt, hheader, hnumber]
    · next hstands =>
      rw [Option.filter_some_pos]
      · rfl
      · by_cases hfile : coverage = .file
        · have hplace : inHeader = true ∨ number ≤ headerLines := by
            by_contra hnot
            exact hstands ⟨hfile, fun h => hnot (Or.inl h), by omega⟩
          simpa [standsAt, hfile] using hplace
        · simp [standsAt, hfile]

theorem ofLine?_eq_findSome? (file name : String) (number : Nat) (inHeader first : Bool)
    (line : List Char) :
    ofLine? file number inHeader line =
      [linePattern, blockPattern].findSome? fun pattern =>
        (((pattern.search? line).bind (ofMatch? name 1 first)).filter
          (standsAt inHeader number)).map (recordedAt file number) := by
  rw [ofLine?]
  congr 1
  funext pattern
  cases pattern.search? line with
  | none => rfl
  | some found => exact ofMatch?_eq file name number inHeader first found

/-- Whatever is recorded may stand on its line. -/
theorem standsAt_of_ofLine? (h : ofLine? file number inHeader line = some suppression) :
    standsAt inHeader number suppression = true := by
  rw [ofLine?_eq_findSome? file file number inHeader inHeader] at h
  obtain ⟨pattern, -, h⟩ := List.exists_of_findSome?_eq_some h
  obtain ⟨stated, hstated, rfl⟩ := Option.map_eq_some_iff.mp h
  exact (Option.filter_eq_some_iff.mp hstated).2

/-- A line is read as if it stood first, if what it states there may stand on it. -/
theorem ofLine?_eq_map (file : String)
    (h : ∀ suppression, ofLine? name 1 first line = some suppression →
      standsAt inHeader number suppression = true) :
    ofLine? file number inHeader line =
      (ofLine? name 1 first line).map (recordedAt file number) := by
  rw [ofLine?_eq_findSome? file name number inHeader first]
  exact findSome?_filter_map (recordedAt file number) h

/-- A directive for the file on the first line is one on any line where it may stand. -/
theorem exists_file_ofLine?_iff
    (h : ∃ suppression, ofLine? name 1 first line = some suppression ∧
      suppression.coverage = .file) :
    (∃ suppression, ofLine? file number inHeader line = some suppression ∧
      suppression.coverage = .file) ↔ number ≤ headerLines ∨ inHeader = true := by
  constructor
  · rintro ⟨suppression, hsuppression, hfile⟩
    have hstands := standsAt_of_ofLine? hsuppression
    simp only [standsAt, hfile, bne_self_eq_false, Bool.false_or, Bool.or_eq_true,
      decide_eq_true_eq] at hstands
    exact hstands.symm
  · intro hplace
    obtain ⟨suppression, hsuppression, hfile⟩ := h
    have hstands : standsAt inHeader number suppression = true := by
      simpa [standsAt, hfile] using hplace.symm
    refine ⟨recordedAt file number suppression, ?_, hfile⟩
    have hother : ∀ other, ofLine? name 1 first line = some other →
        standsAt inHeader number other = true := by
      intro other hother
      rwa [← Option.some.inj (hsuppression.symm.trans hother)]
    rw [ofLine?_eq_map file hother, hsuppression, Option.map_some]

/-- The suppressions on some lines are those of each line, one after the other. -/
theorem ofLines_eq_filterMap (file : String) (number : Nat) (inHeader : Bool)
    (lines : List (List Char)) :
    ofLines file number inHeader lines =
      (List.range lines.length).filterMap fun index =>
        lines[index]?.bind
          (ofLine? file (number + index) (inHeader && allHeader (lines.take (index + 1)))) := by
  induction lines generalizing number inHeader with
  | nil => rfl
  | cons line lines ih =>
    have hrest : ∀ index, number + 1 + index = number + (index + 1) := by omega
    rw [ofLines, ih, List.length_cons, List.range_succ_eq_map, List.filterMap_cons,
      List.filterMap_map]
    simp only [allHeader, Function.comp_def, Nat.succ_eq_add_one, hrest, List.getElem?_cons_zero,
      List.getElem?_cons_succ, List.take_succ_cons, List.take_zero, List.all_cons, List.all_nil,
      Bool.and_true, Bool.and_assoc, Nat.add_zero, Option.bind_some]
    cases ofLine? file number (inHeader && isHeaderLine (Text.trim line)) line <;> rfl

/-- A line of the header is blank, or it starts, behind blanks, as a comment or an import. -/
theorem isHeaderLine_trim_iff :
    isHeaderLine (Text.trim line) = true ↔ Text.trim line = [] ∨
      ∃ start ∈ ["//", "/*", "*", "import "], String.toList start <+: Text.trim line := by
  simp [isHeaderLine, List.isPrefixOf_iff_prefix]

theorem directiveAt?_of_getElem? {index : Nat}
    (h : (Text.lines contents.toList)[index]? = some line) :
    directiveAt? file contents index =
      ofLine? file (index + 1) (allHeader ((Text.lines contents.toList).take (index + 1)))
        line := by
  rw [directiveAt?, h, Option.bind_some]

theorem take_length_succ (above below : List (List Char)) (line : List Char) :
    (above ++ line :: below).take (above.length + 1) = above ++ [line] := by
  rw [List.append_cons]
  exact List.take_left' (List.length_append ..)

theorem directiveAt?_of_lines {above below : List (List Char)}
    (h : Text.lines contents.toList = above ++ line :: below) :
    directiveAt? file contents above.length =
      ofLine? file (above.length + 1) (allHeader (above ++ [line])) line := by
  have hline : (Text.lines contents.toList)[above.length]? = some line := by simp [h]
  rw [directiveAt?_of_getElem? hline, h, take_length_succ]

/-- The suppressions of a text are what one of its lines states, between those of the lines
above and those of the lines below. -/
theorem ofContents_of_lines {above below : List (List Char)} (file : String)
    (h : Text.lines contents.toList = above ++ line :: below) :
    ofContents file contents =
      ofLines file 1 true above ++ (directiveAt? file contents above.length).toList ++
        ofLines file (above.length + 2) (allHeader (above ++ [line])) below := by
  have hheader : (true && allHeader above && isHeaderLine (Text.trim line)) =
      allHeader (above ++ [line]) := by simp [allHeader]
  rw [ofContents, directiveAt?_of_lines h, h, ofLines_append, ofLines, hheader, Nat.add_comm 1,
    List.append_assoc]

/-- How the directives of a text hang on its lines. -/
structure ReadByLine (file contents : String) : Prop where
  /-- Each line states one suppression at most, and they are recorded in the order of the
  lines. -/
  ofContents_eq : ofContents file contents =
    (List.range (Text.lines contents.toList).length).filterMap (directiveAt? file contents)
  /-- A suppression is recorded for the number of its line, or for zero if it covers the
  file. -/
  line_eq : ∀ index suppression, directiveAt? file contents index = some suppression →
    suppression.line = if suppression.coverage = .file then 0 else index + 1
  /-- A line that asks for the file where it stands first in a text asks for it here just when
  it is among the first ten lines or all lines up to it are header lines. -/
  file_iff : ∀ name first index line, (Text.lines (String.toList first))[0]? = some line →
    (Text.lines contents.toList)[index]? = some line →
    (∃ suppression, directiveAt? name first 0 = some suppression ∧
      suppression.coverage = .file) →
    ((∃ suppression, directiveAt? file contents index = some suppression ∧
      suppression.coverage = .file) ↔ index + 1 ≤ 10 ∨
        ∀ above ∈ (Text.lines contents.toList).take (index + 1), Text.trim above = [] ∨
          ∃ start ∈ ["//", "/*", "*", "import "], String.toList start <+: Text.trim above)
  /-- Any other line states here what it states where it stands first in a text. -/
  eq_first : ∀ name first index line, (Text.lines (String.toList first))[0]? = some line →
    (Text.lines contents.toList)[index]? = some line →
    (∀ suppression, directiveAt? name first 0 = some suppression →
      suppression.coverage ≠ .file) →
    directiveAt? file contents index =
      (directiveAt? name first 0).map fun suppression =>
        { suppression with file, line := index + 1 }
  /-- Lines that are inserted change nothing above them. -/
  above_inserted : ∀ edited above inserted below,
    Text.lines contents.toList = above ++ below →
    Text.lines (String.toList edited) = above ++ inserted ++ below →
    ∀ index < above.length, directiveAt? file edited index = directiveAt? file contents index
  /-- Below them they move a directive by their number, if its line does not ask for the file
  where it stands first in a text. -/
  below_inserted : ∀ edited above inserted below,
    Text.lines contents.toList = above ++ below →
    Text.lines (String.toList edited) = above ++ inserted ++ below →
    ∀ name first index line, above.length ≤ index →
      (Text.lines (String.toList first))[0]? = some line →
      (Text.lines contents.toList)[index]? = some line →
      (∀ suppression, directiveAt? name first 0 = some suppression →
        suppression.coverage ≠ .file) →
      directiveAt? file edited (index + inserted.length) =
        (directiveAt? file contents index).map fun suppression =>
          { suppression with line := suppression.line + inserted.length }

/-- A line that does not ask for the file where it stands first states the same everywhere. -/
theorem directiveAt?_eq_first {first : String} {index : Nat}
    (hfirst : (Text.lines first.toList)[0]? = some line)
    (hline : (Text.lines contents.toList)[index]? = some line)
    (hnot : ∀ suppression, directiveAt? name first 0 = some suppression →
      suppression.coverage ≠ .file) :
    directiveAt? file contents index =
      (directiveAt? name first 0).map fun suppression =>
        { suppression with file, line := index + 1 } := by
  rw [directiveAt?_of_getElem? hfirst] at hnot ⊢
  rw [directiveAt?_of_getElem? hline, ofLine?_eq_map file fun suppression hsuppression => ?_]
  · refine Option.map_congr fun suppression hsuppression => ?_
    rw [recordedAt, if_neg (hnot suppression hsuppression)]
  · simp [standsAt, hnot suppression hsuppression]

/-- The directives of every text are read line by line. -/
theorem readByLine (file contents : String) : ReadByLine file contents where
  ofContents_eq := by
    rw [ofContents, ofLines_eq_filterMap]
    simp only [Bool.true_and, Nat.add_comm 1]
    rfl
  line_eq := by
    intro index suppression h
    obtain ⟨line, -, h⟩ := Option.bind_eq_some_iff.mp h
    exact (place_of_ofLine? h).2
  file_iff := by
    intro name first index line hfirst hline hfile
    rw [directiveAt?_of_getElem? hfirst] at hfile
    rw [directiveAt?_of_getElem? hline, exists_file_ofLine?_iff hfile, allHeader, List.all_eq_true]
    simp only [isHeaderLine_trim_iff]
    rfl
  eq_first := fun _ _ _ _ hfirst hline hnot => directiveAt?_eq_first hfirst hline hnot
  above_inserted := by
    intro edited above inserted below hlines hedited index hindex
    rw [List.append_assoc] at hedited
    rw [directiveAt?, directiveAt?, hlines, hedited, List.getElem?_append_left hindex,
      List.getElem?_append_left hindex, List.take_append_of_le_length hindex,
      List.take_append_of_le_length hindex]
  below_inserted := by
    intro edited above inserted below hlines hedited name first index line hindex hfirst hline hnot
    have hmoved : (Text.lines (String.toList edited))[index + inserted.length]? = some line := by
      rw [hlines, List.getElem?_append_right hindex] at hline
      rw [hedited, List.getElem?_append_right (by simp; omega), ← hline]
      congr 1
      simp
      omega
    rw [directiveAt?_eq_first hfirst hmoved hnot, directiveAt?_eq_first hfirst hline hnot,
      Option.map_map]
    congr 1
    funext suppression
    simp [Nat.add_right_comm]

end LeadingDot.Suppression
