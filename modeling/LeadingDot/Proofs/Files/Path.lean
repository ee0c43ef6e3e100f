import LeadingDot.Files.Path
import Mathlib.Data.List.Basic
import Mathlib.Data.List.TakeWhile

/-!
# Paths below a directory

A walk puts names on the path of the directory where it starts. Whatever the text of that path
is, with slashes and dots that count for nothing or without, its components are those at the
start of the longer path, and what is left of the longer path after them is the names with
slashes between them.
-/

namespace LeadingDot

/-- Whether a name is one that something in a directory can have. -/
def IsName (name : FileName) : Prop :=
  name ≠ [] ∧ name ≠ [0x2E] ∧ name ≠ [0x2E, 0x2E] ∧ 0x2F ∉ name

instance (name : FileName) : Decidable (IsName name) :=
  inferInstanceAs (Decidable (_ ∧ _ ∧ _ ∧ _))

namespace Path

/-- The path of names with slashes between them. -/
def ofNames (names : List FileName) : Path :=
  ⟨[0x2F].intercalate names⟩

/-- The path at which names lead on from another path. -/
def under (root : Path) (names : List FileName) : Path :=
  names.foldl (fun path name => path.join ⟨name⟩) root

/-- The bytes of a path with a slash at its end. -/
def slashed (path : Path) : List UInt8 :=
  if path.text.getLast?.any isSlash then path.text else path.text ++ [0x2F]

/-- Whether what stands between slashes counts as a component. -/
def Counts (piece : List UInt8) : Prop :=
  piece ≠ [] ∧ piece ≠ [0x2E] ∧ 0x2F ∉ piece

variable {piece rest text front : List UInt8} {name : FileName} {names : List FileName} {root : Path}

theorem Counts.reverse (h : Counts piece) : Counts piece.reverse := by
  obtain ⟨hnil, hdot, hslash⟩ := h
  refine ⟨by simpa using hnil, fun hreverse => hdot ?_, by simpa using hslash⟩
  rw [← List.reverse_reverse piece, hreverse]
  rfl

theorem Counts.not_isSlash (h : Counts piece) : ∀ c ∈ piece, (!isSlash c) = true := by
  intro c hc
  rw [isSlash, Bool.not_eq_true', beq_eq_false_iff_ne]
  rintro rfl
  exact h.2.2 hc

theorem Counts.exists_cons (h : Counts piece) : ∃ c rest, piece = c :: rest ∧ isSlash c = false := by
  obtain ⟨c, rest, rfl⟩ := List.exists_cons_of_ne_nil h.1
  exact ⟨c, rest, rfl, by simpa using h.not_isSlash c List.mem_cons_self⟩

/-- A piece that counts starts with neither a slash nor a single dot. -/
theorem Counts.cases (h : Counts piece) :
    (∃ c rest, piece = c :: rest ∧ c ≠ 0x2F ∧ c ≠ 0x2E) ∨
      ∃ d rest, piece = 0x2E :: d :: rest ∧ d ≠ 0x2F := by
  obtain ⟨hnil, hdot, hslash⟩ := h
  obtain ⟨c, rest, rfl⟩ := List.exists_cons_of_ne_nil hnil
  by_cases hc : c = 0x2E
  · subst hc
    obtain ⟨d, rest, rfl⟩ := List.exists_cons_of_ne_nil fun hrest => hdot (hrest ▸ rfl)
    exact Or.inr ⟨d, rest, rfl, fun hd => hslash (by simp [hd])⟩
  · exact Or.inl ⟨c, rest, rfl, fun hslash' => hslash (by simp [hslash']), hc⟩

theorem Counts.dropFiller (h : Counts piece) (rest : List UInt8) :
    dropFiller (piece ++ rest) = piece ++ rest := by
  obtain ⟨c, piece, rfl, hslash, hdot⟩ | ⟨d, piece, rfl, hslash⟩ := h.cases
  · simp [Path.dropFiller, hslash, hdot]
  · simp [Path.dropFiller, hslash]

theorem Counts.dropFillerReversed (h : Counts piece) (rest : List UInt8) :
    dropFillerReversed (piece ++ rest) = piece ++ rest := by
  obtain ⟨c, piece, rfl, hslash, hdot⟩ | ⟨d, piece, rfl, hslash⟩ := h.cases
  · simp [Path.dropFillerReversed, hslash, hdot]
  · simp [Path.dropFillerReversed, hslash]

theorem Counts.dropFillerEnd (h : Counts piece) (front : List UInt8) :
    dropFillerEnd (front ++ piece) = front ++ piece := by
  rw [Path.dropFillerEnd, List.reverse_append, h.reverse.dropFillerReversed,
    ← List.reverse_append, List.reverse_reverse]

theorem Counts.anchor (h : Counts piece) (rest : List UInt8) : anchor (piece ++ rest) = [] := by
  obtain ⟨c, piece, rfl, hslash, hdot⟩ | ⟨d, piece, rfl, hslash⟩ := h.cases
  · simp [Path.anchor, hslash, hdot]
  · simp [Path.anchor, hslash]

/-! ### Components -/

theorem pieces_eq_splitOn (text : List UInt8) : pieces [] text = text.splitOn 0x2F := by
  have h : ∀ seen, pieces seen text = text.splitOnPPrepend isSlash seen := by
    induction text with
    | nil => exact fun _ => rfl
    | cons c text ih =>
      intro seen
      rw [pieces, List.splitOnPPrepend_cons_eq_if, ih, ih, List.splitOnPPrepend_nil_right]
  exact h []

/-- No slash stands between two slashes that follow each other. -/
theorem slash_notMem_of_mem_splitOn (h : piece ∈ text.splitOn 0x2F) : 0x2F ∉ piece := by
  induction text generalizing piece with
  | nil => simp_all
  | cons c text ih =>
    rw [List.splitOn_cons_eq_if_modifyHead] at h
    split at h
    · rcases List.mem_cons.mp h with rfl | h
      · exact List.not_mem_nil
      · exact ih h
    · next hc =>
      obtain ⟨first, others, hparts⟩ := List.exists_cons_of_ne_nil (List.splitOn_ne_nil 0x2F text)
      rw [hparts] at h ih
      rcases List.mem_cons.mp h with rfl | h
      · intro hmem
        rcases List.mem_cons.mp hmem with rfl | hmem
        · exact hc (by simp)
        · exact ih List.mem_cons_self hmem
      · exact ih (List.mem_cons_of_mem _ h)

/-- What stands between slashes counts for nothing or is a component. -/
theorem filler_or_counts (h : 0x2F ∉ piece) :
    ((piece = [] ∨ piece = [0x2E]) ∧ Component.ofText? piece = none) ∨
      Counts piece ∧ (Component.ofText? piece).isSome := by
  unfold Component.ofText?
  by_cases hfiller : piece = [] ∨ piece = [0x2E]
  · exact Or.inl ⟨hfiller, if_pos hfiller⟩
  · rw [if_neg hfiller]
    rw [not_or] at hfiller
    refine Or.inr ⟨⟨hfiller.1, hfiller.2, h⟩, ?_⟩
    split <;> rfl

/-- The components that the texts between slashes stand for. -/
def counted (text : List UInt8) : List Component :=
  (text.splitOn 0x2F).filterMap Component.ofText?

theorem components_eq (path : Path) :
    path.components = anchor path.text ++ counted path.text := by
  rw [components, pieces_eq_splitOn, counted]

theorem counted_append_slash (front text : List UInt8) :
    counted (front ++ 0x2F :: text) = counted front ++ counted text := by
  rw [counted, List.splitOn_append_cons_self, List.filterMap_append]
  rfl

theorem counted_nil : counted [] = [] := rfl

theorem counted_slash (text : List UInt8) : counted (0x2F :: text) = counted text :=
  counted_append_slash [] text

theorem counted_concat_slash (text : List UInt8) : counted (text ++ [0x2F]) = counted text := by
  rw [counted_append_slash, counted_nil, List.append_nil]

theorem anchor_append_slash_of_ne_nil (h : front ≠ []) (text : List UInt8) :
    anchor (front ++ 0x2F :: text) = anchor front := by
  rcases front with _ | ⟨c, _ | ⟨d, front⟩⟩
  · exact absurd rfl h
  · by_cases hc : c = 0x2F
    · subst hc
      rfl
    · by_cases hdot : c = 0x2E
      · subst hdot
        rfl
      · simp [anchor, hc, hdot]
  · unfold anchor
    simp only [List.cons_append]
    split <;> simp_all

theorem anchor_append_slash (front text : List UInt8) :
    anchor (front ++ 0x2F :: text) = anchor (front ++ [0x2F]) := by
  by_cases h : front = []
  · subst h
    rfl
  · rw [anchor_append_slash_of_ne_nil h, anchor_append_slash_of_ne_nil h]

/-- A slash adds what comes after it to the components. -/
theorem components_append_slash (front text : List UInt8) :
    components ⟨front ++ 0x2F :: text⟩ = components ⟨front ++ [0x2F]⟩ ++ counted text := by
  simp only [components_eq]
  rw [anchor_append_slash, counted_append_slash, counted_append_slash, counted_nil,
    List.append_nil, List.append_assoc]

/-- The anchor of a path is its first character, and the other components come after it. -/
theorem anchor_cases (text : List UInt8) :
    anchor text = [] ∨ (anchor text).length = 1 ∧ counted (text.drop 1) = counted text := by
  unfold anchor
  split
  · next rest => exact Or.inr ⟨rfl, (counted_slash rest).symm⟩
  · exact Or.inr ⟨rfl, rfl⟩
  · next rest =>
    exact Or.inr ⟨rfl, (counted_slash rest).trans (counted_append_slash [0x2E] rest).symm⟩
  · exact Or.inl rfl

/-- Every text is split at its first slash. -/
theorem exists_piece (text : List UInt8) : ∃ piece behind, 0x2F ∉ piece ∧ text = piece ++ behind ∧
    (behind = [] ∨ ∃ rest, behind = 0x2F :: rest) := by
  refine ⟨text.takeWhile (!isSlash ·), text.dropWhile (!isSlash ·), ?_,
    (List.takeWhile_append_dropWhile ..).symm, ?_⟩
  · intro hmem
    simpa [isSlash] using List.mem_takeWhile_imp hmem
  · have hhead := List.head?_dropWhile_not (!isSlash ·) text
    cases hdrop : text.dropWhile (!isSlash ·) with
    | nil => exact Or.inl rfl
    | cons c rest =>
      rw [hdrop] at hhead
      have hc : c = 0x2F := by simpa [isSlash] using hhead
      exact Or.inr ⟨rest, by rw [hc]⟩

/-- A text without an anchor starts with a component, up to its end or to a slash. -/
theorem exists_counts_of_anchor (h : anchor text = []) (hne : text ≠ []) :
    ∃ piece behind, Counts piece ∧ text = piece ++ behind ∧
      (behind = [] ∨ ∃ rest, behind = 0x2F :: rest) := by
  obtain ⟨piece, behind, hslash, rfl, hbehind⟩ := exists_piece text
  rcases filler_or_counts hslash with ⟨hfiller, -⟩ | ⟨hcounts, -⟩
  · rcases hfiller with rfl | rfl <;> rcases hbehind with rfl | ⟨rest, rfl⟩ <;>
      simp [anchor] at h hne
  · exact ⟨piece, behind, hcounts, rfl, hbehind⟩

/-- What counts is a single component. -/
theorem Counts.exists_counted (h : Counts piece) : ∃ component, counted piece = [component] := by
  have hsplit : ([0x2F].intercalate [piece]).splitOn 0x2F = [piece] :=
    List.splitOn_intercalate 0x2F (by simpa using h.2.2) (by simp)
  rw [List.intercalate_singleton] at hsplit
  rcases filler_or_counts h.2.2 with ⟨hfiller, -⟩ | ⟨-, hsome⟩
  · exact absurd hfiller (not_or.mpr ⟨h.1, h.2.1⟩)
  · obtain ⟨component, hcomponent⟩ := Option.isSome_iff_exists.mp hsome
    exact ⟨component, by rw [counted, hsplit, List.filterMap_cons_some hcomponent]; rfl⟩

theorem counted_ne_nil (h : anchor text = []) (hne : text ≠ []) : counted text ≠ [] := by
  obtain ⟨piece, behind, hcounts, rfl, hbehind⟩ := exists_counts_of_anchor h hne
  obtain ⟨component, hcomponent⟩ := hcounts.exists_counted
  rcases hbehind with rfl | ⟨rest, rfl⟩
  · simp [hcomponent]
  · simp [counted_append_slash, hcomponent]

/-! ### What is left after components -/

theorem dropNames_slash (count : ℕ) (text : List UInt8) :
    dropNames count (0x2F :: text) = dropNames count text := by
  cases count <;> simp [dropNames, dropFiller]

theorem dropNames_dot (count : ℕ) (text : List UInt8) :
    dropNames count (0x2E :: 0x2F :: text) = dropNames count text := by
  cases count <;> simp [dropNames, dropFiller]

theorem Counts.dropNames (h : Counts piece) (count : ℕ) (text : List UInt8) :
    dropNames (count + 1) (piece ++ 0x2F :: text) = dropNames count text := by
  rw [Path.dropNames, h.dropFiller, List.dropWhile_append_of_pos h.not_isSlash,
    List.dropWhile_cons_of_neg (by simp [isSlash]), dropNames_slash]

theorem dropNames_pieces {pieces : List (List UInt8)} (h : ∀ piece ∈ pieces, 0x2F ∉ piece)
    (text : List UInt8) :
    dropNames (pieces.filterMap Component.ofText?).length
      (pieces.flatMap (· ++ [0x2F]) ++ text) = dropFiller text := by
  -- Filler is dropped with the next component, and a component leaves the slash after it.
  induction pieces with
  | nil => rfl
  | cons piece pieces ih =>
    have ih := ih fun other hother => h other (List.mem_cons_of_mem _ hother)
    rw [List.flatMap_cons, List.append_assoc, List.append_assoc, List.singleton_append]
    rcases filler_or_counts (h piece List.mem_cons_self) with
      ⟨rfl | rfl, hnone⟩ | ⟨hcounts, hsome⟩
    · rw [List.filterMap_cons_none hnone, List.nil_append, dropNames_slash, ih]
    · rw [List.filterMap_cons_none hnone, List.singleton_append, dropNames_dot, ih]
    · obtain ⟨component, hcomponent⟩ := Option.isSome_iff_exists.mp hsome
      rw [List.filterMap_cons_some hcomponent, List.length_cons, hcounts.dropNames, ih]

theorem intercalate_append_slash {pieces : List (List UInt8)} (h : pieces ≠ []) :
    [0x2F].intercalate pieces ++ [0x2F] = pieces.flatMap (· ++ [0x2F]) := by
  induction pieces with
  | nil => exact absurd rfl h
  | cons piece pieces ih =>
    cases pieces with
    | nil => simp
    | cons next pieces =>
      rw [List.intercalate_cons_cons, List.append_assoc, ih (List.cons_ne_nil _ _)]
      rfl

/-- As many components as a text has are dropped with it. -/
theorem dropNames_counted (front text : List UInt8) :
    dropNames (counted front).length (front ++ 0x2F :: text) = dropFiller text := by
  have hfront : ∀ piece ∈ front.splitOn 0x2F, 0x2F ∉ piece := fun _ => slash_notMem_of_mem_splitOn
  have h := dropNames_pieces hfront text
  rwa [← intercalate_append_slash (List.splitOn_ne_nil _ _), List.intercalate_splitOn,
    List.append_assoc, List.singleton_append] at h

/-- After the components before a slash comes what stands after it. -/
theorem after_slash (front text : List UInt8) :
    (⟨front ++ 0x2F :: text⟩ : Path).after (components ⟨front ++ [0x2F]⟩).length =
      dropFillerEnd (dropFiller text) := by
  have hcomponents : (components ⟨front ++ [0x2F]⟩).length =
      (anchor (front ++ [0x2F])).length + (counted front).length := by
    rw [components_eq, List.length_append, counted_append_slash, counted_nil, List.append_nil]
  rw [hcomponents]
  -- The anchor is the first character of a text, if there is one, and dropped as such.
  rcases anchor_cases (front ++ [0x2F]) with hanchor | ⟨hlength, hdrop⟩
  · have hne : counted front ≠ [] := by
      rw [← counted_concat_slash]
      exact counted_ne_nil hanchor (by simp)
    obtain ⟨count, hcount⟩ := Nat.exists_eq_succ_of_ne_zero (mt List.length_eq_zero_iff.mp hne)
    have hdrop := dropNames_counted front text
    rw [hcount] at hdrop ⊢
    rw [hanchor, List.length_nil, Nat.zero_add, after, anchor_append_slash, hanchor,
      if_pos List.isEmpty_nil, hdrop]
  · have hanchor : ¬ (anchor (front ++ [0x2F])).isEmpty = true := by
      intro hempty
      rw [List.isEmpty_iff.mp hempty] at hlength
      cases hlength
    rw [hlength, Nat.add_comm, after, anchor_append_slash, if_neg hanchor]
    cases front with
    | nil => rfl
    | cons c rest =>
      rw [List.cons_append, List.drop_succ_cons, List.drop_zero, counted_concat_slash,
        ← List.cons_append, counted_concat_slash] at hdrop
      rw [← hdrop, List.cons_append, List.drop_succ_cons, List.drop_zero, dropNames_counted]

/-! ### Names on a path -/

theorem counts_of_isName (h : IsName name) : Counts name :=
  ⟨h.1, h.2.1, h.2.2.2⟩

theorem text_ofNames_cons (name next : FileName) (names : List FileName) :
    (ofNames (name :: next :: names)).text = name ++ 0x2F :: (ofNames (next :: names)).text := by
  rw [ofNames, ofNames, List.intercalate_cons_cons, List.append_assoc, List.singleton_append]

theorem exists_text_ofNames (name : FileName) (names : List FileName) :
    ∃ rest, (ofNames (name :: names)).text = name ++ rest := by
  cases names with
  | nil => exact ⟨[], by simp [ofNames]⟩
  | cons next names => exact ⟨_, text_ofNames_cons ..⟩

theorem text_ofNames_concat (h : names ≠ []) (name : FileName) :
    (ofNames (names ++ [name])).text = (ofNames names).text ++ 0x2F :: name := by
  induction names with
  | nil => exact absurd rfl h
  | cons first names ih =>
    cases names with
    | nil => simp [ofNames]
    | cons next names =>
      rw [List.cons_append, List.cons_append, text_ofNames_cons, ← List.cons_append,
        ih (List.cons_ne_nil _ _), text_ofNames_cons, List.append_assoc, List.cons_append]

theorem exists_text_ofNames_concat (names : List FileName) (name : FileName) :
    ∃ front, (ofNames (names ++ [name])).text = front ++ name := by
  cases names with
  | nil => exact ⟨[], by simp [ofNames]⟩
  | cons next names =>
    exact ⟨(ofNames (next :: names)).text ++ [0x2F], by
      rw [text_ofNames_concat (List.cons_ne_nil _ _), List.append_assoc, List.singleton_append]⟩

theorem exists_slashed (root : Path) : ∃ front, root.slashed = front ++ [0x2F] := by
  unfold slashed
  split
  · next h =>
    obtain ⟨c, hlast, hslash⟩ := (Option.any_eq_true ..).mp h
    obtain ⟨front, hfront⟩ := List.getLast?_eq_some_iff.mp hlast
    exact ⟨front, by rw [hfront, beq_iff_eq.mp hslash]⟩
  · exact ⟨_, rfl⟩

/-- A slash at the end of a path counts for nothing. -/
theorem components_slashed (h : root.text ≠ []) :
    components ⟨root.slashed⟩ = root.components := by
  unfold slashed
  split
  · rfl
  · simp only [components_eq]
    rw [anchor_append_slash_of_ne_nil h, counted_append_slash, counted_nil, List.append_nil]

/-- A path that does not start at the root is put on another one after a slash. -/
theorem text_join_of_relative {path : Path} (h : root.text ≠ [])
    (hrelative : path.isAbsolute = false) : (root.join path).text = root.slashed ++ path.text := by
  rw [join, hrelative, if_neg Bool.false_ne_true, slashed]
  split <;> simp_all

theorem text_join (h : root.text ≠ []) (hname : IsName name) :
    (root.join ⟨name⟩).text = root.slashed ++ name := by
  obtain ⟨c, rest, hrest, hc⟩ := (counts_of_isName hname).exists_cons
  have habsolute : (⟨name⟩ : Path).isAbsolute = false := by
    simp [isAbsolute, hrest, hc]
  exact text_join_of_relative h habsolute

theorem slashed_join (h : root.text ≠ []) (hname : IsName name) :
    (root.join ⟨name⟩).slashed = root.slashed ++ name ++ [0x2F] := by
  obtain ⟨c, rest, hrest, hc⟩ := (counts_of_isName hname).reverse.exists_cons
  have hlast : (root.slashed ++ name).getLast? = some c := by
    rw [List.getLast?_append, ← List.head?_reverse, hrest]
    rfl
  rw [slashed, text_join h hname, hlast]
  simp [hc]

/-- Names are put on a path after a slash. -/
theorem text_under (h : root.text ≠ []) (hnames : ∀ name ∈ names, IsName name)
    (hne : names ≠ []) : (root.under names).text = root.slashed ++ (ofNames names).text := by
  induction names generalizing root with
  | nil => exact absurd rfl hne
  | cons name names ih =>
    have hname := hnames name List.mem_cons_self
    have hjoin : (root.join ⟨name⟩).text ≠ [] := by
      rw [text_join h hname]
      exact List.append_ne_nil_of_right_ne_nil _ hname.1
    rw [under, List.foldl_cons, ← under]
    cases names with
    | nil => simp [under, text_join h hname, ofNames]
    | cons next names =>
      rw [ih hjoin (fun other hother => hnames other (List.mem_cons_of_mem _ hother))
        (List.cons_ne_nil _ _), slashed_join h hname, text_ofNames_cons]
      simp

theorem exists_under (h : root.text ≠ []) (hnames : ∀ name ∈ names, IsName name)
    (hne : names ≠ []) : ∃ front, root.slashed = front ++ [0x2F] ∧
      root.under names = ⟨front ++ 0x2F :: (ofNames names).text⟩ := by
  obtain ⟨front, hfront⟩ := root.exists_slashed
  have htext := text_under h hnames hne
  rw [hfront, List.append_assoc, List.singleton_append] at htext
  exact ⟨front, hfront, congrArg Path.mk htext⟩

theorem counted_ofNames (hnames : ∀ name ∈ names, IsName name) :
    counted (ofNames names).text = names.map .name := by
  by_cases hne : names = []
  · subst hne
    rfl
  have hslash : ∀ name ∈ names, 0x2F ∉ name := fun name hname => (hnames name hname).2.2.2
  have hcomponent : ∀ name ∈ names,
      Component.ofText? name = some (.name name) := by
    intro name hname
    obtain ⟨hnil, hdot, hparent, -⟩ := hnames name hname
    rw [Component.ofText?, if_neg (not_or.mpr ⟨hnil, hdot⟩), if_neg hparent]
  rw [ofNames, counted, List.splitOn_intercalate 0x2F hslash hne, ← List.filterMap_eq_map]
  exact List.filterMap_congr hcomponent

/-- Names add themselves to the components of a path. -/
theorem components_under (h : root.text ≠ []) (hnames : ∀ name ∈ names, IsName name)
    (hne : names ≠ []) :
    (root.under names).components = root.components ++ names.map .name := by
  obtain ⟨front, hfront, htext⟩ := exists_under h hnames hne
  rw [htext, components_append_slash, ← hfront, components_slashed h, counted_ofNames hnames]

/-- Different names lead to different paths. -/
theorem eq_of_under_eq {others : List FileName} (h : root.text ≠ [])
    (hnames : ∀ name ∈ names, IsName name) (hne : names ≠ [])
    (hothers : ∀ name ∈ others, IsName name) (hne' : others ≠ [])
    (heq : root.under names = root.under others) : names = others := by
  have hcomponents := congrArg components heq
  rw [components_under h hnames hne, components_under h hothers hne'] at hcomponents
  refine List.map_injective_iff.mpr ?_ (List.append_cancel_left hcomponents)
  exact fun _ _ hname => Component.name.inj hname

theorem components_ofNames (hnames : ∀ name ∈ names, IsName name) :
    (ofNames names).components = names.map .name := by
  cases names with
  | nil => rfl
  | cons name names =>
    obtain ⟨rest, hrest⟩ := exists_text_ofNames name names
    rw [components_eq, counted_ofNames hnames, hrest,
      (counts_of_isName (hnames name List.mem_cons_self)).anchor, List.nil_append]

/-- Nothing is cut off names. -/
theorem dropFillerEnd_ofNames (hnames : ∀ name ∈ names, IsName name) :
    dropFillerEnd (ofNames names).text = (ofNames names).text := by
  rcases names.eq_nil_or_concat with rfl | ⟨names, name, rfl⟩
  · rfl
  · obtain ⟨front, hfront⟩ := exists_text_ofNames_concat names name
    rw [List.concat_eq_append, hfront,
      (counts_of_isName (hnames name (by simp))).dropFillerEnd]

theorem dropFiller_ofNames (hnames : ∀ name ∈ names, IsName name) :
    dropFiller (ofNames names).text = (ofNames names).text := by
  cases names with
  | nil => rfl
  | cons name names =>
    obtain ⟨rest, hrest⟩ := exists_text_ofNames name names
    rw [hrest, (counts_of_isName (hnames name List.mem_cons_self)).dropFiller]

/-- What is left of a path below another one is the names that lead there. -/
theorem below?_under (h : root.text ≠ []) (hnames : ∀ name ∈ names, IsName name)
    (hne : names ≠ []) : (root.under names).below? root = some (ofNames names) := by
  obtain ⟨front, hfront, htext⟩ := exists_under h hnames hne
  rw [below?, components_under h hnames hne, if_pos (List.isPrefixOf_iff_prefix.mpr
    (List.prefix_append ..)), htext, ← components_slashed h, hfront, after_slash,
    dropFiller_ofNames hnames, dropFillerEnd_ofNames hnames]

/-! ### The last name -/

variable {dirs : List FileName} {stem ext : List UInt8}

theorem fileName?_ofNames (hnames : ∀ other ∈ dirs ++ [name], IsName other) :
    (ofNames (dirs ++ [name])).fileName? = some name := by
  rw [fileName?, components_ofNames hnames, List.map_append]
  simp [Component.name?]

theorem fileName?_under (h : root.text ≠ []) (hnames : ∀ other ∈ dirs ++ [name], IsName other) :
    (root.under (dirs ++ [name])).fileName? = some name := by
  rw [fileName?, components_under h hnames (by simp), List.map_append, ← List.append_assoc]
  simp [Component.name?]

/-- A name with a dot in it splits at the last one. -/
theorem splitName_append (hstem : stem ≠ []) (hext : 0x2E ∉ ext) (hne : ext ≠ []) :
    splitName (stem ++ 0x2E :: ext) = (stem, some ext) := by
  have hall : ∀ c ∈ ext.reverse, (c != 0x2E) = true := by
    intro c hc
    rw [bne_iff_ne]
    rintro rfl
    exact hext (List.mem_reverse.mp hc)
  have hreverse : (stem ++ 0x2E :: ext).reverse = ext.reverse ++ 0x2E :: stem.reverse := by simp
  have hparent : stem ++ 0x2E :: ext ≠ [0x2E, 0x2E] := by
    intro h
    have hlength := congrArg List.length h
    have := List.length_pos_of_ne_nil hstem
    have := List.length_pos_of_ne_nil hne
    simp at hlength
    omega
  rw [splitName, hreverse, List.takeWhile_append_of_pos hall, List.dropWhile_append_of_pos hall]
  simp [hstem, hparent]

/-- An extension is what follows the last dot of a name. -/
theorem eq_of_splitName {text : List UInt8} (h : (splitName text).2 = some ext) :
    ∃ stem, stem ≠ [] ∧ text = stem ++ 0x2E :: ext := by
  have hparts := List.takeWhile_append_dropWhile (p := (· != 0x2E)) (l := text.reverse)
  simp only [splitName] at h
  split at h
  · cases h
  · next hsplit =>
    obtain ⟨c, before, hbefore⟩ : ∃ c before, text.reverse.dropWhile (· != 0x2E) = c :: before := by
      refine List.exists_cons_of_ne_nil fun hnil => hsplit (Or.inr ?_)
      rw [hnil, List.drop_nil]
    have hdot : c = 0x2E := by
      have hhead := List.head?_dropWhile_not (· != 0x2E) text.reverse
      simpa [hbefore] using hhead
    rw [hbefore, not_or] at hsplit
    rw [Option.some.injEq] at h
    refine ⟨before.reverse, by simpa using hsplit.2, ?_⟩
    rw [hbefore, hdot] at hparts
    rw [← List.reverse_reverse text, ← hparts, List.reverse_append, List.reverse_cons,
      List.append_assoc, List.singleton_append, h]

/-- The path of names without the last one. -/
theorem parent?_ofNames (hnames : ∀ other ∈ dirs ++ [name], IsName other) :
    (ofNames (dirs ++ [name])).parent? = some (ofNames dirs) := by
  have hdirs : ∀ name ∈ dirs, IsName name := fun other hother =>
    hnames other (List.mem_append_left _ hother)
  have hname : Counts name := counts_of_isName (hnames name (by simp))
  rw [parent?, components_ofNames hnames, List.map_append, List.map_singleton,
    List.getLast?_concat]
  cases dirs with
  | nil => rfl
  | cons first dirs =>
    obtain ⟨rest, hrest⟩ := exists_text_ofNames first (dirs ++ [name])
    obtain ⟨c, piece, hpiece, hc⟩ :=
      (counts_of_isName (hdirs first List.mem_cons_self)).exists_cons
    have habsolute : (ofNames (first :: (dirs ++ [name]))).isAbsolute = false := by
      rw [isAbsolute, hrest, hpiece]
      simp [hc]
    have hend : (ofNames (first :: (dirs ++ [name]))).dropEnd =
        (ofNames (first :: dirs)).text ++ [0x2F] := by
      rw [dropEnd, ← List.cons_append, text_ofNames_concat (List.cons_ne_nil _ _),
        List.reverse_append, List.reverse_cons, List.append_assoc, hname.reverse.dropFillerReversed,
        List.dropWhile_append_of_pos hname.reverse.not_isSlash]
      simp [isSlash]
    have hslash : dropFillerEnd ((ofNames (first :: dirs)).text ++ [0x2F]) =
        (ofNames (first :: dirs)).text := by
      rw [dropFillerEnd, List.reverse_append]
      exact dropFillerEnd_ofNames hdirs
    simp [habsolute, hend, hslash]

end Path

end LeadingDot
