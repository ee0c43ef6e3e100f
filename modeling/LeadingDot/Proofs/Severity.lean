import LeadingDot.Proofs.Text.Lowercase
import LeadingDot.Severity

/-!
# Names of severities

A severity is read from a text by the lower case of the whole text, with all that full
lower-casing does to other scripts. For the two names this comes to the same as comparing
character by character up to the case of ASCII letters: neither name has a `k`, and nothing but
ASCII is lower-cased to the rest of ASCII.
-/

namespace LeadingDot.Severity

variable {text : String} {severity : Severity}

/-- A text is refused with a message that ends in the text as it is. -/
def IsUnknown (text : String) : Prop :=
  ∃ failure, parse text = .error failure ∧ failure.message = "unknown severity: " ++ text

/-- How severities are read from a text. -/
structure ReadsName (text : String) : Prop where
  /-- The lower case of the text is compared with the names. -/
  compared : ∀ severity, parse text = .ok severity ↔ Text.lowercase text = severity.name
  /-- An error is read from the texts that spell `error`, and from no others. -/
  error : parse text = .ok .error ↔ Text.Spells text "error"
  /-- A warning is read from the texts that spell `warning`, and from no others. -/
  warning : parse text = .ok .warning ↔ Text.Spells text "warning"
  /-- A text that spells neither is refused. -/
  unknown : ¬ Text.Spells text "error" → ¬ Text.Spells text "warning" → IsUnknown text
  /-- So is a text with a character outside ASCII, wherever it stands. -/
  beyondAscii : ∀ c ∈ text.toList, c.isAscii = false → IsUnknown text

/-- The first name that is the lower case of the text decides, and no text has both. -/
theorem parse_eq_ok_iff : parse text = .ok severity ↔ Text.lowercase text = severity.name := by
  have hapart : error.name ≠ warning.name := by decide
  by_cases herror : Text.lowercase text = error.name
  · rw [parse, if_pos herror, herror]
    cases severity with
    | error => exact iff_of_true rfl rfl
    | warning => simp [hapart]
  · by_cases hwarning : Text.lowercase text = warning.name
    · rw [parse, if_neg herror, if_pos hwarning, hwarning]
      cases severity with
      | error => simp [hapart.symm]
      | warning => exact iff_of_true rfl rfl
    · rw [parse, if_neg herror, if_neg hwarning]
      cases severity with
      | error => simp [herror]
      | warning => simp [hwarning]

/-- A text that is read as no severity fails with itself. -/
theorem parse_eq_error (h : ∀ severity, parse text ≠ .ok severity) :
    parse text = .error ⟨text⟩ := by
  have herror : Text.lowercase text ≠ error.name := mt parse_eq_ok_iff.mpr (h error)
  have hwarning : Text.lowercase text ≠ warning.name := mt parse_eq_ok_iff.mpr (h warning)
  rw [parse, if_neg herror, if_neg hwarning]

/-- The names are words of small ASCII letters other than `k`. -/
theorem name_plain (severity : Severity) :
    ∀ d ∈ severity.name.toList, d.isAscii = true ∧ d.toLower = d ∧ d ≠ 'k' := by
  have hall : severity.name.toList.all
      (fun d => d.isAscii && d.toLower == d && d != 'k') = true := by
    cases severity <;> decide
  intro d hd
  simpa [and_assoc] using List.all_eq_true.mp hall d hd

theorem parse_eq_ok_iff_spells :
    parse text = .ok severity ↔ Text.Spells text severity.name :=
  parse_eq_ok_iff.trans (Text.lowercase_eq_iff_spells (name_plain severity))

theorem isUnknown (h : ∀ severity : Severity, ¬ Text.Spells text severity.name) :
    IsUnknown text :=
  ⟨⟨text⟩, parse_eq_error fun severity => mt parse_eq_ok_iff_spells.mp (h severity), rfl⟩

/-- Every text is read so, though lower-casing goes beyond ASCII. -/
theorem readsNames : (∀ text, ReadsName text) ∧ Text.LowersBeyondAscii := by
  refine ⟨fun text => ?_, Text.lowersBeyondAscii⟩
  refine
    { compared := fun severity => parse_eq_ok_iff
      error := parse_eq_ok_iff_spells
      warning := parse_eq_ok_iff_spells
      unknown := ?_
      beyondAscii := ?_ }
  · intro herror hwarning
    refine isUnknown fun severity => ?_
    cases severity with
    | error => exact herror
    | warning => exact hwarning
  · intro c hc hout
    refine isUnknown fun severity hspells => ?_
    have hascii := hspells.isAscii (fun d hd => (name_plain severity d hd).1) c hc
    exact absurd (hout.symm.trans hascii) (by decide)

/-- A dotted capital I is not a capital `i`. -/
example : parse "WARNİNG" = .error ⟨"WARNİNG"⟩ := by decide +kernel

end LeadingDot.Severity
