import LeadingDot.Text.Pattern
import Mathlib.Data.List.Basic

/-!
# What a pattern finds

Whatever a pattern takes from a text is in its language, and the search gives the leftmost
place where the pattern matches. Of the ways to match there, a greedy repetition ends up
with all characters of its class in two cases: if what follows goes on behind them, and if
what follows refuses to start with such a character. One that is not greedy ends at the first
place where what follows goes on.
-/

namespace LeadingDot.Text.Pattern

variable {β : Type} {p : Char → Bool} {cs : List Char} {groups : Groups}
  {next : List Char → Groups → Option β} {result : β} {pattern : Pattern}

private theorem of_orElse_eq_some {first second : Option β} (h : (first <|> second) = some result) :
    first = some result ∨ second = some result := by
  cases first with
  | none => exact Or.inr h
  | some found => exact Or.inl h

/-- The language of a pattern: the texts that it can take. -/
def Accepts : Pattern → List Char → Prop
  | empty, cs => cs = []
  | one p, cs => ∃ c, cs = [c] ∧ p c = true
  | many _ p, cs => ∀ c ∈ cs, p c = true
  | seq a b, cs => ∃ first second, cs = first ++ second ∧ a.Accepts first ∧ b.Accepts second
  | either a b, cs => a.Accepts cs ∨ b.Accepts cs
  | group _ a, cs => a.Accepts cs

theorem accepts_sequence_cons {patterns : List Pattern} :
    (sequence (pattern :: patterns)).Accepts cs ↔
      ∃ first second, cs = first ++ second ∧ pattern.Accepts first ∧
        (sequence patterns).Accepts second := by
  cases patterns with
  | nil => simp [sequence, Accepts]
  | cons other patterns => rfl

/-- A fixed text takes itself only. -/
theorem accepts_literal {text : String} : (literal text).Accepts cs ↔ cs = text.toList := by
  rw [literal]
  induction text.toList generalizing cs with
  | nil => rfl
  | cons c chars ih =>
    rw [List.map_cons, accepts_sequence_cons]
    constructor
    · rintro ⟨_, _, rfl, ⟨d, rfl, hd⟩, hsecond⟩
      rw [ih.mp hsecond, beq_iff_eq.mp hd]
      rfl
    · rintro rfl
      exact ⟨[c], chars, rfl, ⟨c, rfl, beq_self_eq_true c⟩, ih.mpr rfl⟩

theorem accepts_some1 :
    (some1 p).Accepts cs ↔ ∃ c rest, cs = c :: rest ∧ p c = true ∧ ∀ d ∈ rest, p d = true := by
  constructor
  · rintro ⟨_, rest, rfl, ⟨c, rfl, hc⟩, hrest⟩
    exact ⟨c, rest, rfl, hc, hrest⟩
  · rintro ⟨c, rest, rfl, hc, hrest⟩
    exact ⟨[c], rest, rfl, ⟨c, rfl, hc⟩, hrest⟩

/-- A repetition takes characters of its class, and what follows goes on behind them. -/
theorem exists_of_runMany {greedy : Bool} {next : List Char → Option β}
    (h : runMany greedy p next cs = some result) :
    ∃ used rest, cs = used ++ rest ∧ (∀ c ∈ used, p c = true) ∧ next rest = some result := by
  induction cs with
  | nil => exact ⟨[], [], rfl, by simp, h⟩
  | cons c cs ih =>
    have hcases : (if p c then runMany greedy p next cs else none) = some result ∨
        next (c :: cs) = some result := by
      rw [runMany] at h
      split at h
      · exact of_orElse_eq_some h
      · exact (of_orElse_eq_some h).symm
    rcases hcases with hmore | hnext
    · obtain ⟨hc, hmore⟩ := Option.ite_none_right_eq_some.mp hmore
      obtain ⟨used, rest, rfl, hused, hnext⟩ := ih hmore
      exact ⟨c :: used, rest, rfl, List.forall_mem_cons.mpr ⟨hc, hused⟩, hnext⟩
    · exact ⟨[], c :: cs, rfl, by simp, hnext⟩

/-- What a pattern takes is in its language, and what follows goes on behind it. -/
theorem exists_of_run (h : pattern.run cs groups next = some result) :
    ∃ used rest kept, cs = used ++ rest ∧ pattern.Accepts used ∧ next rest kept = some result := by
  induction pattern generalizing cs groups next with
  | empty => exact ⟨[], cs, groups, rfl, rfl, h⟩
  | one p =>
    cases cs with
    | nil => cases h
    | cons c cs =>
      obtain ⟨hc, h⟩ := Option.ite_none_right_eq_some.mp h
      exact ⟨[c], cs, groups, rfl, ⟨c, rfl, hc⟩, h⟩
  | many greedy p =>
    obtain ⟨used, rest, hcs, hused, h⟩ := exists_of_runMany h
    exact ⟨used, rest, groups, hcs, hused, h⟩
  | seq a b iha ihb =>
    obtain ⟨first, rest, kept, rfl, hfirst, h⟩ := iha h
    obtain ⟨second, rest, kept, rfl, hsecond, h⟩ := ihb h
    exact ⟨first ++ second, rest, kept, by simp, ⟨first, second, rfl, hfirst, hsecond⟩, h⟩
  | either a b iha ihb =>
    rcases of_orElse_eq_some h with h | h
    · obtain ⟨used, rest, kept, hcs, hused, h⟩ := iha h
      exact ⟨used, rest, kept, hcs, Or.inl hused, h⟩
    · obtain ⟨used, rest, kept, hcs, hused, h⟩ := ihb h
      exact ⟨used, rest, kept, hcs, Or.inr hused, h⟩
  | group number a ih =>
    obtain ⟨used, rest, kept, hcs, hused, h⟩ := ih h
    exact ⟨used, rest, _, hcs, hused, h⟩

/-- If what follows goes on behind all characters of the class, they are all taken. -/
theorem runMany_of_accepted {next : List Char → Option β}
    (h : next (cs.dropWhile p) = some result) : runMany true p next cs = some result := by
  induction cs with
  | nil => exact h
  | cons c cs ih =>
    rw [runMany, if_pos rfl]
    cases hc : p c with
    | true =>
      rw [List.dropWhile_cons_of_pos hc] at h
      simp [ih h]
    | false =>
      rw [List.dropWhile_cons_of_neg (by simp [hc])] at h
      simp [h]

/-- If what follows does not start with a character of the class, they are all taken too. -/
theorem runMany_of_refused {next : List Char → Option β}
    (h : ∀ c cs, p c = true → next (c :: cs) = none) (cs : List Char) :
    runMany true p next cs = next (cs.dropWhile p) := by
  induction cs with
  | nil => rfl
  | cons c cs ih =>
    rw [runMany, if_pos rfl]
    cases hc : p c with
    | true => simp [ih, h c cs hc, hc]
    | false => simp [hc]

theorem run_many_of_refused {used rest : List Char} (hused : ∀ c ∈ used, p c = true)
    (hrest : rest.dropWhile p = rest)
    (hnext : ∀ c cs, p c = true → next (c :: cs) groups = none) :
    (many true p).run (used ++ rest) groups next = next rest groups := by
  rw [run, runMany_of_refused hnext, List.dropWhile_append_of_pos hused, hrest]

/-- The same holds of a repetition that asks for one character at least. -/
theorem run_some1_of_refused {used rest : List Char} (hne : used ≠ [])
    (hused : ∀ c ∈ used, p c = true) (hrest : rest.dropWhile p = rest)
    (hnext : ∀ c cs, p c = true → next (c :: cs) groups = none) :
    (some1 p).run (used ++ rest) groups next = next rest groups := by
  obtain ⟨c, used, rfl⟩ := List.exists_cons_of_ne_nil hne
  obtain ⟨hc, hused⟩ := List.forall_mem_cons.mp hused
  rw [some1, run, List.cons_append, run, if_pos hc, run_many_of_refused hused hrest hnext]

/-- A repetition that is not greedy ends where what follows goes on for the first time. -/
theorem runMany_lazy {next : List Char → Option β} {used rest : List Char}
    (hused : ∀ c ∈ used, p c = true) (hnext : next rest = some result)
    (hrefused : ∀ later, later <:+ used → later ≠ [] → next (later ++ rest) = none) :
    runMany false p next (used ++ rest) = some result := by
  induction used with
  | nil => cases rest <;> simp [runMany, hnext]
  | cons c used ih =>
    obtain ⟨hc, hused⟩ := List.forall_mem_cons.mp hused
    have hmore := ih hused fun later hlater =>
      hrefused later (hlater.trans (List.suffix_cons c used))
    have hhere := hrefused (c :: used) List.suffix_rfl (List.cons_ne_nil c used)
    rw [List.cons_append] at hhere ⊢
    rw [runMany, if_neg (by decide), if_pos hc, hhere, hmore]
    rfl

theorem run_sequence_cons (pattern : Pattern) (patterns : List Pattern) :
    (sequence (pattern :: patterns)).run cs groups next =
      pattern.run cs groups fun rest kept => (sequence patterns).run rest kept next := by
  cases patterns <;> rfl

/-- A fixed text is taken from the start of a text that has it there. -/
theorem run_literal_append (text : String) (rest : List Char) :
    (literal text).run (text.toList ++ rest) groups next = next rest groups := by
  rw [literal]
  induction text.toList with
  | nil => rfl
  | cons c chars ih =>
    rw [List.map_cons, run_sequence_cons, List.cons_append, run, if_pos (by simp), ih]

/-- A fixed text is not taken from a text that starts with another character. -/
theorem run_literal_of_head?_ne (text : String) {c : Char} (hc : text.toList.head? = some c)
    (hcs : cs.head? ≠ some c) : (literal text).run cs groups next = none := by
  obtain ⟨chars, hchars⟩ := List.head?_eq_some_iff.mp hc
  rw [literal, hchars, List.map_cons, run_sequence_cons]
  cases cs with
  | nil => rfl
  | cons d cs => exact if_neg (by simpa using hcs)

/-- A fixed text is only taken from a text that starts with it. -/
theorem run_literal_of_not_prefix {text : String} (h : ¬ text.toList <+: cs) :
    (literal text).run cs groups next = none := by
  cases hrun : (literal text).run cs groups next with
  | none => rfl
  | some found =>
    obtain ⟨used, rest, -, rfl, hused, -⟩ := exists_of_run hrun
    exact absurd (accepts_literal.mp hused ▸ List.prefix_append used rest) h

/-- The search gives the leftmost place where a pattern matches. -/
theorem searchFrom?_eq_some {i : Nat} (seen : List Char) {rest : List Char}
    (hbefore : ∀ j < i, pattern.matchHere? (cs.drop j) = none) (hi : i ≤ cs.length)
    (hmatch : pattern.matchHere? (cs.drop i) = some (groups, rest)) :
    pattern.searchFrom? seen cs = some ⟨seen.reverse ++ cs.take i, groups, rest⟩ := by
  induction i generalizing seen cs with
  | zero =>
    rw [List.drop_zero] at hmatch
    cases cs <;> simp [searchFrom?, hmatch]
  | succ i ih =>
    cases cs with
    | nil => cases hi
    | cons c cs =>
      have hnone : pattern.matchHere? (c :: cs) = none := hbefore 0 (Nat.succ_pos i)
      rw [searchFrom?, hnone]
      simpa using ih (c :: seen) (fun j hj => hbefore (j + 1) (by omega)) (by simpa using hi) hmatch

/-- The search gives the leftmost place where a pattern matches. -/
theorem search?_eq_some {i : Nat} {rest : List Char}
    (hbefore : ∀ j < i, pattern.matchHere? (cs.drop j) = none) (hi : i ≤ cs.length)
    (hmatch : pattern.matchHere? (cs.drop i) = some (groups, rest)) :
    pattern.search? cs = some ⟨cs.take i, groups, rest⟩ :=
  searchFrom?_eq_some [] hbefore hi hmatch

theorem exists_of_searchFrom? {seen : List Char} {found : Match}
    (h : pattern.searchFrom? seen cs = some found) :
    ∃ i groups rest, pattern.matchHere? (cs.drop i) = some (groups, rest) := by
  induction cs generalizing seen with
  | nil =>
    obtain ⟨⟨groups, rest⟩, hmatch, -⟩ := Option.map_eq_some_iff.mp h
    exact ⟨0, groups, rest, hmatch⟩
  | cons c cs ih =>
    rw [searchFrom?] at h
    split at h
    · next groups rest hmatch => exact ⟨0, groups, rest, hmatch⟩
    · obtain ⟨i, groups, rest, hmatch⟩ := ih h
      exact ⟨i + 1, groups, rest, hmatch⟩

/-- What the search finds matches somewhere. -/
theorem exists_of_search? {found : Match} (h : pattern.search? cs = some found) :
    ∃ i groups rest, pattern.matchHere? (cs.drop i) = some (groups, rest) :=
  exists_of_searchFrom? h

end LeadingDot.Text.Pattern
