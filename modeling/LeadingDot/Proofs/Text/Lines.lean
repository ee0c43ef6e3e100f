import LeadingDot.Proofs.Text.Utf8
import LeadingDot.Text.Lines
import Mathlib.Data.List.Induction

/-!
# Lines of text and of bytes

The lines of a list are its segments between line feeds, of characters or of bytes alike.
As decoding keeps line feeds and carriage returns, the lines of a decoded byte string are
the lines of the byte string, each decoded by itself.
-/

namespace LeadingDot.Text

variable {α : Type} [DecidableEq α]

/-- Drops `x` at the end of a list, once. -/
def dropEnd (x : α) (xs : List α) : List α :=
  if xs.getLast? = some x then xs.dropLast else xs

theorem mem_of_mem_dropEnd {x y : α} {xs : List α} (h : y ∈ dropEnd x xs) : y ∈ xs := by
  unfold dropEnd at h
  split at h
  · exact (List.dropLast_sublist xs).mem h
  · exact h

theorem exists_eq_dropEnd_append (x : α) (xs : List α) :
    ∃ ending, xs = dropEnd x xs ++ ending ∧ ∀ y ∈ ending, y = x := by
  unfold dropEnd
  split
  · next hlast =>
    obtain ⟨before, rfl⟩ := List.getLast?_eq_some_iff.mp hlast
    exact ⟨[x], by rw [List.dropLast_concat], by simp⟩
  · exact ⟨[], (List.append_nil xs).symm, by simp⟩

/-- The segments of a list between line feeds, each without a return before the line feed.
What follows the last line feed is a line unless it is empty. -/
def segments (feed ret : α) (xs : List α) : List (List α) :=
  (xs.splitOn feed).dropLast.map (dropEnd ret) ++
    (xs.splitOn feed).getLast?.toList.filter (· ≠ [])

/-- Without a line feed there is one line, or none if the list is empty. -/
theorem segments_of_not_mem {feed ret : α} {xs : List α} (h : feed ∉ xs) :
    segments feed ret xs = [xs].filter (· ≠ []) := by
  rw [segments, List.splitOn_eq_singleton h]
  rfl

/-- A line feed ends the first line. -/
theorem segments_append_cons {feed ret : α} {xs rest : List α} (h : feed ∉ xs) :
    segments feed ret (xs ++ feed :: rest) = dropEnd ret xs :: segments feed ret rest := by
  have hne := List.splitOn_ne_nil feed rest
  rw [segments, List.splitOn_append_cons_self_of_not_mem h, List.dropLast_cons_of_ne_nil hne,
    List.getLast?_cons_of_ne_nil hne]
  rfl

/-- Where a line stands: the line feeds before it are those of the lines above, the last of
them right before the line, and a line feed or a return comes behind it. -/
theorem exists_of_segments_eq {feed ret : α} {xs line : List α} {above below : List (List α)}
    (h : segments feed ret xs = above ++ line :: below) :
    ∃ before after, xs = before ++ line ++ after ∧ before.count feed = above.length ∧
      feed ∉ line ∧ (∀ x ∈ before.getLast?, x = feed) ∧ ∀ x ∈ after.head?, x = feed ∨ x = ret := by
  induction above generalizing xs with
  | nil =>
    by_cases hmem : feed ∈ xs
    · obtain ⟨first, rest, rfl, hfirst⟩ := List.eq_append_cons_of_mem hmem
      rw [segments_append_cons hfirst] at h
      obtain ⟨rfl, -⟩ := List.cons.inj h
      obtain ⟨ending, hending, hret⟩ := exists_eq_dropEnd_append ret first
      refine ⟨[], ending ++ feed :: rest, ?_, rfl, mt mem_of_mem_dropEnd hfirst, by simp, ?_⟩
      · rw [List.nil_append, ← List.append_assoc, ← hending]
      · cases ending with
        | nil => simp
        | cons y ending => simp [hret]
    · rw [segments_of_not_mem hmem] at h
      have hline : line ∈ [xs].filter (· ≠ []) := h ▸ List.mem_cons_self
      obtain rfl : line = xs := List.mem_singleton.mp (List.mem_of_mem_filter hline)
      exact ⟨[], [], by simp, rfl, hmem, by simp, by simp⟩
  | cons first above ih =>
    by_cases hmem : feed ∈ xs
    · obtain ⟨first, rest, rfl, hfirst⟩ := List.eq_append_cons_of_mem hmem
      rw [segments_append_cons hfirst] at h
      obtain ⟨before, after, rfl, hcount, hline, hbefore, hafter⟩ := ih (List.cons.inj h).2
      refine ⟨first ++ feed :: before, after, by simp, ?_, hline, ?_, hafter⟩
      · simp [List.count_append, List.count_eq_zero_of_not_mem hfirst, hcount]
      · cases before with
        | nil => simp
        | cons x before => simpa using hbefore
    · -- Without a line feed there are not two lines.
      rw [segments_of_not_mem hmem] at h
      have hlength : (first :: above ++ line :: below).length ≤ [xs].length :=
        h ▸ List.length_filter_le _ _
      simp at hlength

/-- There is one segment more than there are separators. -/
theorem length_splitOn (x : α) (xs : List α) : (xs.splitOn x).length = xs.count x + 1 := by
  induction xs with
  | nil => rfl
  | cons y xs ih =>
    rw [List.splitOn_cons_eq_if_modifyHead, List.count_cons]
    split <;> simp [ih]

/-- Up to the first separator a list is one segment. -/
theorem head?_splitOn_append {x : α} {xs : List α} (hxs : x ∉ xs) (ys : List α) :
    ∃ after, after <+: ys ∧ x ∉ after ∧ ((xs ++ ys).splitOn x)[0]? = some (xs ++ after) := by
  by_cases hmem : x ∈ ys
  · obtain ⟨after, below, rfl, hafter⟩ := List.eq_append_cons_of_mem hmem
    have hnot : x ∉ xs ++ after := by simp [hxs, hafter]
    rw [← List.append_assoc, List.splitOn_append_cons_self_of_not_mem hnot]
    exact ⟨after, List.prefix_append .., hafter, rfl⟩
  · rw [List.splitOn_eq_singleton (by simp [hxs, hmem])]
    exact ⟨ys, List.prefix_rfl, hmem, rfl⟩

/-- The number of separators before a place is the number of the segment that holds it. -/
theorem getElem?_splitOn_append (x : α) (xs ys : List α) :
    ∃ before after, before <:+ xs ∧ after <+: ys ∧ x ∉ before ∧ x ∉ after ∧
      ((xs ++ ys).splitOn x)[xs.count x]? = some (before ++ after) := by
  by_cases hmem : x ∈ xs
  · obtain ⟨above, rest, rfl⟩ := List.append_of_mem hmem
    obtain ⟨before, after, hbefore, hafter, hnot, hnot', heq⟩ := getElem?_splitOn_append x rest ys
    refine ⟨before, after, ?_, hafter, hnot, hnot', ?_⟩
    · exact hbefore.trans ((List.suffix_cons x rest).trans (List.suffix_append above _))
    · rw [List.append_assoc, List.cons_append, List.splitOn_append_cons_self,
        List.getElem?_append_right (by simp [length_splitOn]), length_splitOn, ← heq]
      congr 1
      simp
      omega
  · obtain ⟨after, hafter, hnot, heq⟩ := head?_splitOn_append hmem ys
    exact ⟨xs, after, List.suffix_rfl, hafter, hmem, hnot, List.count_eq_zero_of_not_mem hmem ▸ heq⟩
termination_by xs.length
decreasing_by
  subst_vars
  simp only [List.length_append, List.length_cons]
  omega

/-- Both ways to drop a carriage return are the same. -/
theorem dropReturn_eq (line : List Char) : dropReturn line = dropEnd '\r' line := by
  induction line using List.reverseRecOn with
  | nil => rfl
  | append_singleton line c =>
    rw [dropReturn, dropEnd, List.reverse_append, List.getLast?_append]
    by_cases hc : c = '\r'
    · subst hc
      simp
    · simp [hc]

/-- The reader of lines finds the segments of a text. -/
theorem linesFrom_eq {seen : List Char} (cs : List Char) (hseen : '\n' ∉ seen) :
    linesFrom seen cs = segments '\n' '\r' (seen.reverse ++ cs) := by
  induction cs generalizing seen with
  | nil =>
    rw [List.append_nil, segments_of_not_mem (by simpa using hseen)]
    cases seen <;> simp [linesFrom]
  | cons c cs ih =>
    rw [linesFrom]
    split
    · next hc =>
      subst hc
      rw [segments_append_cons (by simpa using hseen), ih List.not_mem_nil, dropReturn_eq]
      rfl
    · next hc =>
      have hmem : '\n' ∉ c :: seen := by simp [Ne.symm hc, hseen]
      rw [ih hmem, List.reverse_cons, List.append_assoc]
      rfl

/-- No line holds a line feed. -/
theorem not_mem_of_mem_linesFrom {seen line cs : List Char} (hseen : '\n' ∉ seen)
    (h : line ∈ linesFrom seen cs) : '\n' ∉ line := by
  induction cs generalizing seen with
  | nil =>
    cases seen with
    | nil => cases h
    | cons c seen =>
      rw [List.mem_singleton.mp h]
      exact mt List.mem_reverse.mp hseen
  | cons c cs ih =>
    rw [linesFrom] at h
    split at h
    · rcases List.mem_cons.mp h with rfl | h
      · rw [dropReturn_eq]
        exact fun hmem => hseen (List.mem_reverse.mp (mem_of_mem_dropEnd hmem))
      · exact ih List.not_mem_nil h
    · next hc => exact ih (by simp [Ne.symm hc, hseen]) h

theorem not_mem_of_lines_eq {line cs : List Char} {above below : List (List Char)}
    (h : lines cs = above ++ line :: below) : '\n' ∉ line := by
  have hmem : line ∈ lines cs := h ▸ List.mem_append_right above List.mem_cons_self
  exact not_mem_of_mem_linesFrom List.not_mem_nil hmem

theorem lines_eq (cs : List Char) : lines cs = segments '\n' '\r' cs :=
  linesFrom_eq cs List.not_mem_nil

namespace Utf8

/-- An ascii character at the end of a text is dropped with its byte. -/
theorem dropEnd_decodeLossy {b : UInt8} (hb : b < 0x80) (bytes : List UInt8) :
    dropEnd (Char.ofNat b.toNat) (decodeLossy bytes) = decodeLossy (dropEnd b bytes) := by
  by_cases h : bytes.getLast? = some b
  · obtain ⟨before, rfl⟩ := List.getLast?_eq_some_iff.mp h
    rw [dropEnd, dropEnd, if_pos h, if_pos ((getLast?_decodeLossy hb _).mpr h),
      decodeLossy_append_cons hb, decodeLossy_eq_nil_iff.mpr rfl, List.dropLast_concat,
      List.dropLast_concat]
  · rw [dropEnd, dropEnd, if_neg h, if_neg (mt (getLast?_decodeLossy hb _).mp h)]

/-- Decoding line by line gives the lines of the decoded text. -/
theorem segments_decodeLossy {feed ret : UInt8} (hfeed : feed < 0x80) (hret : ret < 0x80)
    (bytes : List UInt8) :
    segments (Char.ofNat feed.toNat) (Char.ofNat ret.toNat) (decodeLossy bytes) =
      (segments feed ret bytes).map decodeLossy := by
  have hends : (bytes.splitOn feed).dropLast.map (dropEnd (Char.ofNat ret.toNat) ∘ decodeLossy) =
      (bytes.splitOn feed).dropLast.map (decodeLossy ∘ dropEnd ret) :=
    List.map_congr_left fun segment _ => dropEnd_decodeLossy hret segment
  have hlast : ((bytes.splitOn feed).getLast?.map decodeLossy).toList.filter (· ≠ []) =
      ((bytes.splitOn feed).getLast?.toList.filter (· ≠ [])).map decodeLossy := by
    cases (bytes.splitOn feed).getLast? with
    | none => rfl
    | some segment => by_cases h : segment = [] <;> simp [h, decodeLossy_eq_nil_iff]
  rw [segments, splitOn_decodeLossy hfeed, ← List.map_dropLast, List.map_map, hends,
    List.getLast?_map, hlast, segments, List.map_append, List.map_map]

end Utf8

end LeadingDot.Text
