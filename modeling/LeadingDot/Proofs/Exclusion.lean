import LeadingDot.Exclusion

/-!
# What patterns leave out

If all patterns are glob patterns, what one of them matches is left out. Otherwise the first one
that is none is told, and no later one is looked at.
-/

namespace LeadingDot.Exclusion

variable {pattern : String} {patterns : List String} {parts : List Glob.Part} {fault : Glob.Fault}

/-- Whether a pattern is a glob pattern. -/
def Parses (pattern : String) : Prop :=
  ∃ parts, Glob.parse pattern.toList = .ok parts

theorem readPattern_of_ok (h : Glob.parse pattern.toList = .ok parts) :
    readPattern pattern = .ok parts := by
  rw [readPattern, h]
  rfl

theorem readPattern_of_error (h : Glob.parse pattern.toList = .error fault) :
    readPattern pattern = .error ⟨pattern, fault⟩ := by
  rw [readPattern, h]
  rfl

theorem ofPatterns_cons_of_ok (h : Glob.parse pattern.toList = .ok parts) :
    ofPatterns (pattern :: patterns) =
      (ofPatterns patterns).map fun exclusion => ⟨parts :: exclusion.patterns⟩ := by
  rw [ofPatterns, ofPatterns, List.mapM_cons, readPattern_of_ok h]
  cases patterns.mapM readPattern <;> rfl

theorem ofPatterns_cons_of_error (h : Glob.parse pattern.toList = .error fault) :
    ofPatterns (pattern :: patterns) = .error ⟨pattern, fault⟩ := by
  rw [ofPatterns, List.mapM_cons, readPattern_of_error h]
  rfl

/-- If all patterns are glob patterns, what one of them matches is left out. -/
theorem exists_ofPatterns_eq_ok (h : ∀ pattern ∈ patterns, Parses pattern) :
    ∃ exclusion, ofPatterns patterns = .ok exclusion ∧ ∀ text, exclusion.covers text = true ↔
      ∃ pattern ∈ patterns, ∃ parts, Glob.parse pattern.toList = .ok parts ∧
        Glob.isMatch parts text = true := by
  induction patterns with
  | nil => exact ⟨⟨[]⟩, rfl, fun text => by simp [covers]⟩
  | cons pattern patterns ih =>
    obtain ⟨parts, hparts⟩ := h pattern List.mem_cons_self
    obtain ⟨exclusion, hexclusion, hcovers⟩ :=
      ih fun other hother => h other (List.mem_cons_of_mem _ hother)
    refine ⟨⟨parts :: exclusion.patterns⟩, ?_, fun text => ?_⟩
    · rw [ofPatterns_cons_of_ok hparts, hexclusion]
      rfl
    · rw [covers, List.any_cons, Bool.or_eq_true, ← covers, hcovers]
      simp [hparts]

/-- The first pattern that is no glob pattern is told. -/
theorem exists_ofPatterns_eq_error (h : ¬ ∀ pattern ∈ patterns, Parses pattern) :
    ∃ above pattern below fault, patterns = above ++ pattern :: below ∧
      (∀ earlier ∈ above, Parses earlier) ∧ Glob.parse pattern.toList = .error fault ∧
      ofPatterns patterns = .error ⟨pattern, fault⟩ := by
  induction patterns with
  | nil => exact absurd (fun _ hmem => absurd hmem List.not_mem_nil) h
  | cons pattern patterns ih =>
    cases hparts : Glob.parse pattern.toList with
    | error fault =>
      exact ⟨[], pattern, patterns, fault, rfl, by simp, hparts, ofPatterns_cons_of_error hparts⟩
    | ok parts =>
      obtain ⟨above, bad, below, fault, rfl, habove, hbad, herror⟩ :=
        ih fun hall => h (List.forall_mem_cons.mpr ⟨⟨parts, hparts⟩, hall⟩)
      refine ⟨pattern :: above, bad, below, fault, rfl, ?_, hbad, ?_⟩
      · exact List.forall_mem_cons.mpr ⟨⟨parts, hparts⟩, habove⟩
      · rw [ofPatterns_cons_of_ok hparts, herror]
        rfl

end LeadingDot.Exclusion
