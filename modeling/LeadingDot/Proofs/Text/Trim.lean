import LeadingDot.Text.Blank
import Mathlib.Data.List.DropRight

/-!
# Trimmed text

Blanks at the ends of a text do not count when it is trimmed. Trimming stops at the first and
at the last character that is not blank, so a text is trimmed from such a character on to
both sides.
-/

namespace LeadingDot.Text

variable {cs blanks before after : List Char} {c : Char}

theorem trimEnd_eq (cs : List Char) : trimEnd cs = cs.rdropWhile isBlank := rfl

/-- Blanks at the end are dropped. -/
theorem trimEnd_append_of_blank (hblanks : ∀ c ∈ blanks, isBlank c = true) :
    trimEnd (cs ++ blanks) = trimEnd cs := by
  rw [trimEnd, trimEnd, List.reverse_append, List.dropWhile_append_of_pos]
  intro c hc
  exact hblanks c (List.mem_reverse.mp hc)

/-- A character that is not blank is kept with all before it. -/
theorem trimEnd_append_cons (hc : isBlank c = false) (before after : List Char) :
    trimEnd (before ++ c :: after) = before ++ c :: trimEnd after := by
  rw [trimEnd, trimEnd, List.reverse_append, List.reverse_cons, List.append_assoc,
    List.dropWhile_append]
  split
  · next hempty =>
    rw [List.isEmpty_iff.mp hempty, List.singleton_append,
      List.dropWhile_cons_of_neg (by simp [hc])]
    simp
  · simp

/-- A text is its trimmed start and blanks. -/
theorem exists_append_trimEnd (cs : List Char) :
    ∃ blanks, cs = trimEnd cs ++ blanks ∧ ∀ c ∈ blanks, isBlank c = true :=
  ⟨cs.rtakeWhile isBlank, List.rdropWhile_append_rtakeWhile.symm, fun _ hc =>
    List.mem_rtakeWhile_imp hc⟩

/-- A text that is trimmed at its end is empty or ends in a character that is not blank. -/
theorem trimEnd_eq_nil_or_concat (cs : List Char) :
    trimEnd cs = [] ∨ ∃ before c, trimEnd cs = before ++ [c] ∧ isBlank c = false := by
  rw [trimEnd_eq]
  by_cases hne : cs.rdropWhile isBlank = []
  · exact Or.inl hne
  · have hlast := List.rdropWhile_last_not isBlank cs hne
    exact Or.inr ⟨_, _, (List.dropLast_append_getLast hne).symm, by simpa using hlast⟩

theorem trim_dropWhile_isBlank (cs : List Char) : trim (cs.dropWhile isBlank) = trim cs := by
  rw [trim, trim, trimStart, trimStart, List.dropWhile_idempotent]

theorem trim_append_of_blank (hblanks : ∀ c ∈ blanks, isBlank c = true) :
    trim (cs ++ blanks) = trim cs := by
  rw [trim, trim, trimStart, trimStart, List.dropWhile_append]
  split
  · next hempty =>
    rw [List.isEmpty_iff.mp hempty, List.dropWhile_eq_nil_iff.mpr hblanks]
  · exact trimEnd_append_of_blank hblanks

theorem trim_blank_append (hblanks : ∀ c ∈ blanks, isBlank c = true) :
    trim (blanks ++ cs) = trim cs := by
  rw [trim, trim, trimStart, trimStart, List.dropWhile_append_of_pos hblanks]

theorem trim_trimEnd (cs : List Char) : trim (trimEnd cs) = trim cs := by
  obtain ⟨blanks, hsplit, hblanks⟩ := exists_append_trimEnd cs
  exact (trim_append_of_blank hblanks).symm.trans (congrArg trim hsplit.symm)

/-- On both sides of a character that is not blank only the far end is trimmed. -/
theorem trim_append_cons (hc : isBlank c = false) (before after : List Char) :
    trim (before ++ c :: after) = trimStart before ++ c :: trimEnd after := by
  rw [trim, trimStart, List.dropWhile_append]
  split
  · next hempty =>
    rw [trimStart, List.isEmpty_iff.mp hempty, List.dropWhile_cons_of_neg (by simp [hc])]
    exact trimEnd_append_cons hc [] after
  · exact trimEnd_append_cons hc _ after

end LeadingDot.Text
