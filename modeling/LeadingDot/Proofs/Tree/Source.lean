import LeadingDot.Proofs.Text.Encoding
import LeadingDot.Tree.Source

/-!
# Ranges of a source

Two ranges of a source that meet make up one range. Its text is that of the one followed by
that of the other, as long as the border does not fall inside a character.
-/

namespace LeadingDot.Source

variable {source : Source} {start middle stop : Nat} {cs : List Char}

/-- A range of a source falls into two at any place in it. -/
theorem slice?_append (source : Source) (hstart : start ≤ middle) (hstop : middle ≤ stop)
    (hsize : stop ≤ source.bytes.size) :
    ∃ before after, source.slice? start middle = some before ∧
      source.slice? middle stop = some after ∧
      source.slice? start stop = some (before ++ after) := by
  refine ⟨_, _, if_pos ⟨hstart, by omega⟩, if_pos ⟨hstop, hsize⟩, ?_⟩
  rw [slice?, if_pos ⟨by omega, hsize⟩, ← Array.toList_append, Array.extract_append_extract,
    Nat.min_eq_left hstart, Nat.max_eq_right hstop]

theorem slice?_of_lt (h : source.bytes.size < stop) (start : Nat) :
    source.slice? start stop = none :=
  if_neg (by omega)

/-- The text of a range is the one whose bytes stand there. -/
theorem text?_eq_some_iff : source.text? start stop = some cs ↔
    start ≤ stop ∧ stop ≤ source.bytes.size ∧
      source.bytes.extract start stop = (String.ofList cs).toUTF8.data := by
  rw [text?, slice?]
  split
  · next hrange =>
    rw [Option.bind_some, Text.Utf8.decode?_eq_some_iff, ← Text.Utf8.toUTF8_ofList, Array.toList_inj]
    exact ⟨fun h => ⟨hrange.1, hrange.2, h⟩, fun h => h.2.2⟩
  · next hrange =>
    refine iff_of_false (fun h => ?_) fun h => hrange ⟨h.1, h.2.1⟩
    cases h

theorem le_of_text? (h : source.text? start stop = some cs) : start ≤ stop := by
  obtain ⟨bytes, hslice, -⟩ := Option.bind_eq_some_iff.mp h
  exact (Option.ite_none_right_eq_some.mp hslice).1.1

/-- The text of a range that begins with well-formed text goes on with the text of the rest. -/
theorem text?_append (h : source.text? start middle = some cs) (hstop : middle ≤ stop) :
    source.text? start stop = (source.text? middle stop).map (cs ++ ·) := by
  by_cases hsize : stop ≤ source.bytes.size
  · obtain ⟨before, after, hbefore, hafter, hboth⟩ :=
      slice?_append source (le_of_text? h) hstop hsize
    rw [text?, hbefore, Option.bind_some] at h
    rw [text?, text?, hafter, hboth, Option.bind_some, Option.bind_some,
      Text.Utf8.decode?_append h]
  · rw [text?, text?, slice?_of_lt (by omega), slice?_of_lt (by omega)]
    rfl

end LeadingDot.Source
