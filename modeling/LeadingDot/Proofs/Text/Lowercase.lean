import LeadingDot.Proofs.Text.Utf8
import LeadingDot.Text.Lowercase
import Mathlib.Data.List.Forall2
import Mathlib.Data.String.Defs

/-!
# Lower case and ASCII

Lower-casing moves characters of many scripts, some of them to two characters, and yet its result
is an ASCII word for hardly any text but an ASCII one: a character outside ASCII leaves one behind
that is outside ASCII as well. The Kelvin sign alone does not, as it becomes a `k`. A word without
a `k` is therefore the lower case of its own spellings and of nothing else.
-/

namespace LeadingDot.Text

variable {c d : Char} {word : List Char} {text : String}

/-- Two characters are the same up to the case of an ASCII letter. -/
def SameLetter (c d : Char) : Prop :=
  c.toLower = d.toLower

/-- A text spells a word character by character, in any mixture of cases of ASCII letters. -/
def Spells (text word : String) : Prop :=
  List.Forall₂ SameLetter text.toList word.toList

/-- The ASCII character that is left of a character in lower case, if nothing else is left. -/
def asciiLower? (c : Char) : Option Char :=
  if c.isAscii then some c.toLower
  else if c = '\u212A' then some 'k'
  else none

/-! ## Single characters -/

theorem isAscii_toLower (c : Char) : c.toLower.isAscii = c.isAscii := by
  unfold Char.toLower
  split
  · next hcapital =>
    have hle : c.val.toNat ≤ 0x5A := UInt32.le_iff_toNat_le.mp hcapital.2
    have hmoved : (c.val + 32).toNat = c.val.toNat + 32 := by
      simp (disch := omega) only [UInt32.toNat_add, UInt32.reduceToNat, Nat.reducePow,
        Nat.mod_eq_of_lt]
    have hboth : (c.val + 32).toNat < 0x80 ↔ c.val.toNat < 0x80 := by omega
    exact decide_eq_decide.mpr hboth
  · rfl

/-- The run of the ASCII capitals. -/
def asciiCapitals : CaseRun := ⟨0x41, 0x5A, 1, 32⟩

/-- All other runs start outside ASCII. -/
theorem le_first_of_mem_tail : ∀ run ∈ lowerRuns.tail, 0x80 ≤ run.first := by
  decide +kernel

theorem findSome?_lower? {n : Nat} (h : n < 0x80) :
    lowerRuns.findSome? (·.lower? n) = asciiCapitals.lower? n := by
  have hruns : lowerRuns = asciiCapitals :: lowerRuns.tail := rfl
  have hrest : lowerRuns.tail.findSome? (·.lower? n) = none := by
    refine List.findSome?_eq_none_iff.mpr fun run hrun => if_neg ?_
    have hfirst := le_first_of_mem_tail run hrun
    omega
  rw [hruns, List.findSome?_cons, hrest]
  cases asciiCapitals.lower? n <;> rfl

/-- A character of ASCII is lower-cased within ASCII. -/
theorem lowerChar_of_isAscii (h : c.isAscii = true) : lowerChar c = [c.toLower] := by
  have hn : c.toNat < 0x80 := of_decide_eq_true h
  have hdotted : c ≠ 'İ' := by
    rintro rfl
    cases h
  have hcapitals : ∀ n < 0x80,
      ((asciiCapitals.lower? n).map Char.ofNat).getD (.ofNat n) = (Char.ofNat n).toLower := by
    decide +kernel
  have hc := hcapitals c.toNat hn
  rw [Char.ofNat_toNat] at hc
  rw [lowerChar, if_neg hdotted, findSome?_lower? hn, ← hc]
  cases asciiCapitals.lower? c.toNat <;> rfl

/-- A run holds ASCII characters only, or the Kelvin sign only, or it ends up outside ASCII at
code points of characters. -/
theorem lowerRuns_cases : ∀ run ∈ lowerRuns,
    run.last < 0x80 ∨ run.first = 0x212A ∧ run.last = 0x212A ∨
      0x80 ≤ run.first + run.shift ∧
        (run.last + run.shift < 0xD800 ∨
          0xDFFF < run.first + run.shift ∧ run.last + run.shift < 0x110000) := by
  decide +kernel

theorem le_of_lower? {run : CaseRun} {n m : Nat} (hrun : run ∈ lowerRuns) (hn : 0x80 ≤ n)
    (hkelvin : n ≠ 0x212A) (h : run.lower? n = some m) :
    0x80 ≤ m ∧ (m < 0xD800 ∨ 0xDFFF < m ∧ m < 0x110000) := by
  unfold CaseRun.lower? at h
  split at h
  · next hheld =>
    obtain ⟨hfirst, hlast, -⟩ := hheld
    have hm : (n + run.shift).toNat = m := Option.some.inj h
    rcases lowerRuns_cases run hrun with hascii | ⟨hleast, hmost⟩ | ⟨hout, hvalid⟩
    · omega
    · omega
    · omega
  · cases h

/-- A character outside ASCII that is not the Kelvin sign leaves one outside ASCII behind. -/
theorem exists_mem_lowerChar (hc : c.isAscii = false) (hkelvin : c ≠ '\u212A') :
    ∃ d ∈ lowerChar c, d.isAscii = false := by
  have hn : 0x80 ≤ c.toNat := by simpa [Char.isAscii] using hc
  unfold lowerChar
  split
  · -- The dot of a dotted capital I stays.
    exact ⟨'\u0307', by simp, rfl⟩
  · split
    · next m hfound =>
      obtain ⟨run, hrun, hlower⟩ := List.exists_of_findSome?_eq_some hfound
      have hne : c.toNat ≠ 0x212A := fun heq => hkelvin (Char.toNat_inj.mp heq)
      obtain ⟨hout, hvalid⟩ := le_of_lower? hrun hn hne hlower
      refine ⟨Char.ofNat m, List.mem_singleton_self _, ?_⟩
      rw [Char.isAscii, Utf8.toNat_ofNat hvalid]
      exact decide_eq_false (by omega)
    · exact ⟨c, List.mem_singleton_self c, hc⟩

/-- The dotted capital I is the one character that is lower-cased to several. -/
theorem one_lt_length_lowerChar_iff : 1 < (lowerChar c).length ↔ c = 'İ' := by
  unfold lowerChar
  split
  · next heq => exact iff_of_true (by simp) heq
  · next hne =>
    split
    · exact iff_of_false (by simp) hne
    · exact iff_of_false (by simp) hne

/-! ## Texts -/

theorem lowerFrom_cons_of_some (h : asciiLower? c = some d) (seen cs : List Char) :
    lowerFrom seen (c :: cs) = d :: lowerFrom (c :: seen) cs := by
  unfold asciiLower? at h
  split at h
  · next hascii =>
    have hsigma : c ≠ 'Σ' := by
      rintro rfl
      cases hascii
    rw [lowerFrom, if_neg hsigma, lowerChar_of_isAscii hascii, Option.some.inj h,
      List.singleton_append]
  · split at h
    · next hkelvin =>
      subst hkelvin
      obtain rfl := Option.some.inj h
      have hlower : lowerChar '\u212A' = ['k'] := by decide +kernel
      rw [lowerFrom, if_neg (by decide), hlower, List.singleton_append]
    · cases h

theorem exists_mem_lowerFrom_cons (h : asciiLower? c = none) (seen cs : List Char) :
    ∃ d ∈ lowerFrom seen (c :: cs), d.isAscii = false := by
  have hc : c.isAscii = false ∧ c ≠ '\u212A' := by
    unfold asciiLower? at h
    split_ifs at h with hascii hkelvin
    exact ⟨Bool.eq_false_of_not_eq_true hascii, hkelvin⟩
  rw [lowerFrom]
  split
  · -- Neither form of a small sigma is in ASCII.
    split
    · exact ⟨'ς', by simp, rfl⟩
    · exact ⟨'σ', by simp, rfl⟩
  · obtain ⟨d, hd, hout⟩ := exists_mem_lowerChar hc.1 hc.2
    exact ⟨d, List.mem_append_left _ hd, hout⟩

/-- An ASCII word is what is left of the characters one by one, whatever was seen before. -/
theorem lowerFrom_eq_iff (seen cs : List Char) (hword : ∀ d ∈ word, d.isAscii = true) :
    lowerFrom seen cs = word ↔ List.Forall₂ (fun c d => asciiLower? c = some d) cs word := by
  induction cs generalizing seen word with
  | nil => rw [lowerFrom, List.forall₂_nil_left_iff, eq_comm]
  | cons c cs ih =>
    cases hlower : asciiLower? c with
    | none =>
      refine iff_of_false ?_ ?_
      · rintro rfl
        obtain ⟨d, hd, hout⟩ := exists_mem_lowerFrom_cons hlower seen cs
        exact absurd (hword d hd) (by simp [hout])
      · intro hspelt
        obtain ⟨d, rest, hc, -, -⟩ := List.forall₂_cons_left_iff.mp hspelt
        rw [hlower] at hc
        cases hc
    | some e =>
      rw [lowerFrom_cons_of_some hlower]
      cases word with
      | nil => simp
      | cons d word =>
        rw [List.cons.injEq, List.forall₂_cons, hlower, Option.some.injEq,
          ih (c :: seen) fun x hx => hword x (List.mem_cons_of_mem d hx)]

/-- A text is lower-cased to an ASCII word just if its characters are, one by one. -/
theorem lowercase_eq_iff {word : String} (hword : ∀ d ∈ word.toList, d.isAscii = true) :
    lowercase text = word ↔
      List.Forall₂ (fun c d => asciiLower? c = some d) text.toList word.toList := by
  rw [lowercase, ← lowerFrom_eq_iff [] text.toList hword, ← String.toList_inj,
    String.toList_ofList]

/-! ## Spellings -/

theorem SameLetter.isAscii_eq (h : SameLetter c d) : c.isAscii = d.isAscii := by
  rw [← isAscii_toLower c, ← isAscii_toLower d, h]

/-- A small ASCII letter other than `k` is left of its two forms only. -/
theorem asciiLower?_eq_some_iff (hascii : d.isAscii = true) (hlower : d.toLower = d)
    (hk : d ≠ 'k') : asciiLower? c = some d ↔ SameLetter c d := by
  constructor
  · intro h
    unfold asciiLower? at h
    split_ifs at h
    · exact (Option.some.inj h).trans hlower.symm
    · exact absurd (Option.some.inj h).symm hk
  · intro h
    have hc : c.isAscii = true := h.isAscii_eq.trans hascii
    rw [asciiLower?, if_pos hc, h, hlower]

/-- A word of small ASCII letters other than `k` is the lower case of its spellings only. -/
theorem lowercase_eq_iff_spells {word : String}
    (hword : ∀ d ∈ word.toList, d.isAscii = true ∧ d.toLower = d ∧ d ≠ 'k') :
    lowercase text = word ↔ Spells text word := by
  rw [lowercase_eq_iff fun d hd => (hword d hd).1, Spells, List.forall₂_iff_zip,
    List.forall₂_iff_zip]
  refine and_congr_right fun _ => forall₃_congr fun c d hmem => ?_
  obtain ⟨hascii, hlower, hk⟩ := hword d (List.of_mem_zip hmem).2
  exact asciiLower?_eq_some_iff hascii hlower hk

/-- Only ASCII texts spell an ASCII word. -/
theorem Spells.isAscii {word : String} (h : Spells text word)
    (hword : ∀ d ∈ word.toList, d.isAscii = true) : ∀ c ∈ text.toList, c.isAscii = true := by
  unfold Spells at h
  generalize text.toList = cs at h ⊢
  generalize word.toList = ds at h hword
  induction h with
  | nil => exact hword
  | cons hsame _ ih =>
    rw [List.forall_mem_cons] at hword ⊢
    exact ⟨hsame.isAscii_eq.trans hword.1, ih hword.2⟩

/-! ## Beyond ASCII -/

/-- What lower-casing does to characters outside ASCII and to their number. -/
structure LowersBeyondAscii : Prop where
  /-- The Kelvin sign, which becomes a `k`, is the one character outside ASCII that becomes one
  of ASCII. -/
  letter : ∀ c d : Char, c.isAscii = false → d.isAscii = true →
    (lowercase (.singleton c) = .singleton d ↔ c = '\u212A' ∧ d = 'k')
  /-- The dotted capital I is the one character that becomes several. -/
  several : ∀ c : Char, 1 < (lowercase (.singleton c)).length ↔ c = 'İ'

theorem lowercase_singleton (hsigma : c ≠ 'Σ') :
    lowercase (.singleton c) = .ofList (lowerChar c) := by
  rw [lowercase, String.toList_singleton, lowerFrom, if_neg hsigma, lowerFrom, List.append_nil]

theorem lowersBeyondAscii : LowersBeyondAscii where
  letter := by
    intro c d hc hd
    have hword : ∀ x ∈ (String.singleton d).toList, x.isAscii = true := by simpa using hd
    rw [lowercase_eq_iff hword, String.toList_singleton, String.toList_singleton,
      List.forall₂_cons, and_iff_left List.Forall₂.nil, asciiLower?, if_neg (by simp [hc])]
    split_ifs with hkelvin
    · simp [hkelvin, eq_comm]
    · simp [hkelvin]
  several := by
    intro c
    by_cases hsigma : c = 'Σ'
    · subst hsigma
      decide +kernel
    · rw [lowercase_singleton hsigma, String.length_ofList]
      exact one_lt_length_lowerChar_iff

end LeadingDot.Text
