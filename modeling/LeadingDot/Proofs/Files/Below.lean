import LeadingDot.Proofs.Files.Path
import LeadingDot.Proofs.Text.Encoding

/-!
# What is left of a path below another one

The part of a path below another one is cut out of its text, and slashes and dots that count for
nothing are dropped at both ends of the cut. Nothing that counts is lost in this: the components
of the part are those of the path behind the other one's, and the part starts neither with a
slash nor with the current directory, so that it can be put on any path. If the path is a text, so
is the part.
-/

namespace LeadingDot.Path

variable {text : List UInt8} {path base rest : Path} {count : ℕ}

/-! ### Dropping at both ends -/

/-- Only what counts for nothing is dropped at the start of a text. -/
theorem counted_dropFiller (text : List UInt8) : counted (dropFiller text) = counted text := by
  fun_induction dropFiller text with
  | case1 => rfl
  | case2 rest ih => rw [ih, counted_slash]
  | case3 => rfl
  | case4 rest ih => rw [ih]; exact (counted_append_slash [0x2E] rest).symm
  | case5 => rfl

theorem anchor_dropFiller (text : List UInt8) : anchor (dropFiller text) = [] := by
  fun_induction dropFiller text with
  | case1 => rfl
  | case2 rest ih => exact ih
  | case3 => rfl
  | case4 rest ih => exact ih
  | case5 text hnil hslash hdot hcurrent =>
    unfold anchor
    split
    · exact absurd rfl (hslash _)
    · exact absurd rfl hdot
    · exact absurd rfl (hcurrent _)
    · rfl

/-- Nor does what is dropped at the end count for anything. -/
theorem counted_dropFillerEnd (text : List UInt8) : counted (dropFillerEnd text) = counted text := by
  -- What is dropped at the end is dropped at the start of the reversed text.
  have h : ∀ text, counted (dropFillerReversed text).reverse = counted text.reverse := by
    intro text
    fun_induction dropFillerReversed text with
    | case1 => rfl
    | case2 rest ih => rw [ih, List.reverse_cons, counted_concat_slash]
    | case3 rest ih =>
      rw [ih]
      simp only [List.reverse_cons, List.append_assoc, List.singleton_append]
      rw [counted_append_slash, counted_append_slash]
      rfl
    | case4 => rfl
  rw [dropFillerEnd, h, List.reverse_reverse]

/-- An anchor does not come about by dropping at the end. -/
theorem anchor_dropFillerEnd (h : anchor text = []) : anchor (dropFillerEnd text) = [] := by
  have hreversed : ∀ text, anchor text.reverse = [] →
      anchor (dropFillerReversed text).reverse = [] := by
    intro text
    fun_induction dropFillerReversed text with
    | case1 => exact id
    | case2 rest ih =>
      intro h
      refine ih ?_
      by_cases hrest : rest.reverse = []
      · rw [hrest]
        rfl
      · rwa [List.reverse_cons, anchor_append_slash_of_ne_nil hrest] at h
    | case3 rest ih =>
      intro h
      refine ih ?_
      rw [List.reverse_cons, List.reverse_cons, List.append_assoc, List.singleton_append,
        anchor_append_slash] at h
      rwa [List.reverse_cons]
    | case4 => exact id
  exact hreversed text.reverse (by rwa [List.reverse_reverse])

/-! ### Dropping components -/

/-- What is left after a number of components starts with the next one. -/
theorem anchor_dropNames (count : ℕ) (text : List UInt8) : anchor (dropNames count text) = [] := by
  induction count generalizing text with
  | zero => exact anchor_dropFiller text
  | succ count ih => exact ih _

/-- Cutting a text that starts with a component at its first slash takes that one off. -/
theorem counted_dropWhile (h : anchor text = []) :
    counted (text.dropWhile (!isSlash ·)) = (counted text).drop 1 := by
  by_cases hne : text = []
  · subst hne
    rfl
  obtain ⟨piece, behind, hcounts, rfl, hbehind⟩ := exists_counts_of_anchor h hne
  obtain ⟨component, hcomponent⟩ := hcounts.exists_counted
  rw [List.dropWhile_append_of_pos hcounts.not_isSlash]
  rcases hbehind with rfl | ⟨rest, rfl⟩
  · rw [List.append_nil, hcomponent]
    rfl
  · rw [List.dropWhile_cons_of_neg (by simp [isSlash]), counted_slash, counted_append_slash,
      hcomponent]
    rfl

/-- As many components are dropped as are to be. -/
theorem counted_dropNames (count : ℕ) (text : List UInt8) :
    counted (dropNames count text) = (counted text).drop count := by
  induction count generalizing text with
  | zero => exact counted_dropFiller text
  | succ count ih =>
    rw [dropNames, ih, counted_dropWhile (anchor_dropFiller text), counted_dropFiller,
      List.drop_drop, Nat.add_comm]

theorem components_of_anchor (h : anchor text = []) : components ⟨text⟩ = counted text := by
  rw [components_eq, h, List.nil_append]

/-- A part of a path that lies behind some component starts without an anchor. -/
theorem anchor_after (path : Path) (hcount : 0 < count) : anchor (path.after count) = [] := by
  obtain ⟨count, rfl⟩ := Nat.exists_eq_add_of_lt hcount
  rw [Nat.zero_add, after]
  split <;> exact anchor_dropFillerEnd (anchor_dropNames ..)

/-- Its components are those of the path after as many. -/
theorem components_after (path : Path) (hcount : 0 < count) :
    components ⟨path.after count⟩ = path.components.drop count := by
  rw [components_of_anchor (path.anchor_after hcount), components_eq]
  obtain ⟨count, rfl⟩ := Nat.exists_eq_add_of_lt hcount
  simp only [Nat.zero_add, after]
  -- An anchor is the first of the components that are dropped, and the first character.
  rcases anchor_cases path.text with hnone | ⟨hlength, hdrop⟩
  · rw [if_pos (by simp [hnone]), counted_dropFillerEnd, counted_dropNames, hnone, List.nil_append]
  · obtain ⟨component, hanchor⟩ := List.length_eq_one_iff.mp hlength
    rw [if_neg (by simp [hanchor]), counted_dropFillerEnd, counted_dropNames, hdrop, hanchor]
    rfl

/-! ### Paths below a base -/

/-- Only the empty path has no components. -/
theorem components_ne_nil (h : path.text ≠ []) : path.components ≠ [] := by
  rw [components_eq]
  rcases anchor_cases path.text with hnone | ⟨hlength, -⟩
  · rw [hnone, List.nil_append]
    exact counted_ne_nil hnone h
  · intro hnil
    rw [(List.append_eq_nil_iff.mp hnil).1] at hlength
    cases hlength

theorem isAbsolute_eq_false (h : anchor path.text = []) : path.isAbsolute = false := by
  unfold isAbsolute
  cases htext : path.text with
  | nil => rfl
  | cons c rest =>
    rw [htext] at h
    have hc : c ≠ 0x2F := by
      rintro rfl
      simp [anchor] at h
    simpa [isSlash] using hc

/-- A path lies below another one if its components start with those of the other one. -/
theorem below?_eq_none_iff : path.below? base = none ↔ ¬ base.components <+: path.components := by
  rw [below?, ← List.isPrefixOf_iff_prefix]
  split <;> simp_all

/-- What is left below a base that is not empty has the components after those of the base. -/
theorem exists_below? (hbase : base.text ≠ []) (h : base.components <+: path.components) :
    ∃ rest, path.below? base = some rest ∧ anchor rest.text = [] ∧
      path.components = base.components ++ rest.components := by
  have hcount : 0 < base.components.length := List.length_pos_of_ne_nil (components_ne_nil hbase)
  refine ⟨⟨path.after base.components.length⟩, ?_, path.anchor_after hcount, ?_⟩
  · rw [below?, if_pos (List.isPrefixOf_iff_prefix.mpr h)]
  · rw [path.components_after hcount]
    exact (List.prefix_iff_eq_append.mp h).symm

/-- A part without an anchor adds its components to those of the path that it is put on. -/
theorem components_join (hbase : base.text ≠ []) (h : anchor rest.text = []) :
    (base.join rest).components = base.components ++ rest.components := by
  obtain ⟨front, hfront⟩ := base.exists_slashed
  have htext := text_join_of_relative hbase (isAbsolute_eq_false h)
  rw [hfront, List.append_assoc, List.singleton_append] at htext
  have hjoin : base.join rest = ⟨front ++ 0x2F :: rest.text⟩ := congrArg Path.mk htext
  rw [hjoin, components_append_slash, ← hfront, components_slashed hbase]
  exact congrArg (base.components ++ ·) (components_of_anchor h).symm

/-! ### Bytes of a path -/

/-- Every byte of a text but slashes and dots stands in a name. -/
theorem exists_name_of_mem {c : UInt8} (h : c ∈ text) (hslash : c ≠ 0x2F) (hdot : c ≠ 0x2E) :
    ∃ name, Component.name name ∈ counted text ∧ c ∈ name := by
  -- With a slash put at its end the text is its pieces, each with a slash behind it.
  have hpieces := intercalate_append_slash (List.splitOn_ne_nil 0x2F text)
  rw [List.intercalate_splitOn] at hpieces
  have hmem : c ∈ (text.splitOn 0x2F).flatMap (· ++ [0x2F]) := hpieces ▸ List.mem_append_left _ h
  obtain ⟨piece, hpiece, hc⟩ := List.mem_flatMap.mp hmem
  have hc : c ∈ piece := by simpa [hslash] using hc
  rcases filler_or_counts (slash_notMem_of_mem_splitOn hpiece) with
    ⟨rfl | rfl, -⟩ | ⟨⟨hnil, hcurrent, -⟩, -⟩
  · cases hc
  · exact absurd (List.mem_singleton.mp hc) hdot
  · have hparent : piece ≠ [0x2E, 0x2E] := by
      rintro rfl
      simp [hdot] at hc
    have hname : Component.ofText? piece = some (.name piece) := by
      rw [Component.ofText?, if_neg (not_or.mpr ⟨hnil, hcurrent⟩), if_neg hparent]
    exact ⟨piece, List.mem_filterMap.mpr ⟨piece, hpiece, hname⟩, hc⟩

/-! ### Parts of a text

A path is cut at slashes and dots only, which are no bytes of another character.
-/

open Text.Utf8 (IsText)

theorem toString_ofString (s : String) : (ofString s).toString = s := by
  rw [toString, ofString, Text.Utf8.decodeLossy_encode, String.ofList_toList]

theorem ofString_toString (h : IsText path.text) : ofString path.toString = path := by
  rw [ofString, toString, String.toList_ofList, h.encode_decodeLossy]

theorem isText_slash : IsText (0x2F :: text) ↔ IsText text :=
  Text.Utf8.isText_cons (by decide)

theorem isText_dot : IsText (0x2E :: text) ↔ IsText text :=
  Text.Utf8.isText_cons (by decide)

theorem isText_dropFiller (h : IsText text) : IsText (dropFiller text) := by
  fun_induction dropFiller text with
  | case1 => exact h
  | case2 rest ih => exact ih (isText_slash.mp h)
  | case3 => exact Text.Utf8.isText_nil
  | case4 rest ih => exact ih (isText_slash.mp (isText_dot.mp h))
  | case5 => exact h

theorem isText_dropFillerEnd (h : IsText text) : IsText (dropFillerEnd text) := by
  have hreversed : ∀ text : List UInt8, IsText text.reverse →
      IsText (dropFillerReversed text).reverse := by
    intro text h
    fun_induction dropFillerReversed text with
    | case1 => exact h
    | case2 rest ih =>
      rw [List.reverse_cons] at h
      exact ih ((Text.Utf8.isText_concat (by decide)).mp h)
    | case3 rest ih =>
      rw [List.reverse_cons] at h
      exact ih ((Text.Utf8.isText_concat (by decide)).mp h)
    | case4 => exact h
  exact hreversed text.reverse (by rwa [List.reverse_reverse])

theorem isText_dropWhile (h : IsText text) : IsText (text.dropWhile (!isSlash ·)) := by
  obtain ⟨piece, behind, hslash, rfl, hbehind⟩ := exists_piece text
  have hpiece : ∀ c ∈ piece, (!isSlash c) = true := by
    intro c hc
    simpa [isSlash] using fun heq : c = 0x2F => hslash (heq ▸ hc)
  rw [List.dropWhile_append_of_pos hpiece]
  rcases hbehind with rfl | ⟨rest, rfl⟩
  · exact Text.Utf8.isText_nil
  · have hb : (0x2F : UInt8) < 0x80 := by decide
    rw [List.dropWhile_cons_of_neg (by simp [isSlash]), isText_slash]
    exact ((Text.Utf8.isText_append_cons hb).mp h).2

theorem isText_dropNames (count : ℕ) (h : IsText text) : IsText (dropNames count text) := by
  induction count generalizing text with
  | zero => exact isText_dropFiller h
  | succ count ih => exact ih (isText_dropWhile (isText_dropFiller h))

theorem isText_drop_anchor (h : IsText text) (hanchor : anchor text ≠ []) :
    IsText (text.drop 1) := by
  unfold anchor at hanchor
  split at hanchor
  · exact isText_slash.mp h
  · exact Text.Utf8.isText_nil
  · exact isText_dot.mp h
  · exact absurd rfl hanchor

theorem isText_after (h : IsText path.text) (hcount : 0 < count) : IsText (path.after count) := by
  obtain ⟨count, rfl⟩ := Nat.exists_eq_add_of_lt hcount
  rw [Nat.zero_add, after]
  split
  · exact isText_dropFillerEnd (isText_dropNames _ h)
  · next hanchor =>
    refine isText_dropFillerEnd (isText_dropNames _ (isText_drop_anchor h ?_))
    exact mt List.isEmpty_iff.mpr hanchor

/-- What is left of a text below another path is a text. -/
theorem isText_below? (h : IsText path.text) (hbase : base.text ≠ [])
    (hbelow : path.below? base = some rest) : IsText rest.text := by
  have hcount : 0 < base.components.length := List.length_pos_of_ne_nil (components_ne_nil hbase)
  unfold below? at hbelow
  split at hbelow
  · cases hbelow
    exact isText_after h hcount
  · cases hbelow

/-- The names on a path that is a text are texts. -/
theorem isText_of_name_mem {name : FileName} (h : IsText path.text)
    (hname : Component.name name ∈ path.components) : IsText name := by
  rw [components_eq] at hname
  rcases List.mem_append.mp hname with hname | hname
  · unfold anchor at hname
    split at hname <;> simp at hname
  · obtain ⟨piece, hpiece, hread⟩ := List.mem_filterMap.mp hname
    unfold Component.ofText? at hread
    split_ifs at hread
    · cases hread
    · obtain rfl := Component.name.inj (Option.some.inj hread)
      have hb : (0x2F : UInt8) < 0x80 := by decide
      exact Text.Utf8.isText_of_mem_splitOn hb h hpiece

end LeadingDot.Path
