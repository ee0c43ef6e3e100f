import LeadingDot.Text.Utf8
import Mathlib.Data.List.Basic
import Mathlib.Tactic.Ring

/-!
# Ascii bytes in UTF-8

A byte below `0x80` is a character of its own wherever it stands. It breaks off the unit
before it, so decoding goes on behind it as it would at the start of a text, and no unit
without it gives its character. Where the lines of a byte string end is therefore the same
before and after decoding, malformed as the bytes may be.
-/

namespace LeadingDot.Text.Utf8

variable {b low high : UInt8} {count bits : Nat} {xs bytes rest : List UInt8} {c : Char}

theorem toNat_ofNat {n : Nat} (h : n < 0xD800 ∨ 0xDFFF < n ∧ n < 0x110000) :
    (Char.ofNat n).toNat = n := by
  rw [Char.ofNat, dif_pos h]
  rfl

/-- What is left after a unit is the end of what was there before it. -/
theorem continuation_suffix (count : Nat) (low high : UInt8) (bits : Nat) (bytes : List UInt8) :
    (continuation count low high bits bytes).2 <:+ bytes := by
  fun_induction continuation count low high bits bytes with
  | case1 => exact List.suffix_rfl
  | case2 => exact List.suffix_rfl
  | case3 low high bits count b rest hb ih => exact ih.trans (List.suffix_cons ..)
  | case4 => exact List.suffix_rfl

theorem unit_suffix (b : UInt8) (rest : List UInt8) : (unit b rest).2 <:+ rest := by
  unfold unit
  split
  · exact List.suffix_rfl
  · split
    · exact continuation_suffix ..
    · exact List.suffix_rfl

/-- The bytes that go on with a character stop before an ascii byte. -/
theorem continuation_append_cons (hb : b < 0x80) (hlow : 0x80 ≤ low) :
    continuation count low high bits (xs ++ b :: rest) =
      ((continuation count low high bits xs).1,
        (continuation count low high bits xs).2 ++ b :: rest) := by
  fun_induction continuation count low high bits xs with
  | case1 => rfl
  | case2 low high bits count =>
    have hout : ¬ (low ≤ b ∧ b ≤ high) := fun h =>
      absurd hb (UInt8.not_lt.mpr (UInt8.le_trans hlow h.1))
    rw [List.nil_append, continuation, if_neg hout]
  | case3 low high bits count x xs hx ih =>
    rw [List.cons_append, continuation, if_pos hx]
    exact ih (UInt8.le_refl _)
  | case4 low high bits count x xs hx => rw [List.cons_append, continuation, if_neg hx]

/-- What continuation bytes make of the bits before them: the bounds of the first one bound
the code point. -/
theorem exists_of_continuation (h : (continuation (count + 1) low high bits bytes).1 = some c) :
    ∃ n, c = Char.ofNat n ∧ (bits * 64 + (low.toNat - 0x80)) * 64 ^ count ≤ n ∧
      n < (bits * 64 + (high.toNat - 0x80) + 1) * 64 ^ count := by
  induction count generalizing low high bits bytes with
  | zero =>
    cases bytes with
    | nil => cases h
    | cons b rest =>
      rw [continuation] at h
      split at h
      · next hb =>
        obtain ⟨hlow, hhigh⟩ := hb
        rw [UInt8.le_iff_toNat_le] at hlow hhigh
        exact ⟨_, (Option.some.inj h).symm, by omega, by omega⟩
      · cases h
  | succ count ih =>
    cases bytes with
    | nil => cases h
    | cons b rest =>
      rw [continuation] at h
      split at h
      · next hb =>
        obtain ⟨hlow, hhigh⟩ := hb
        rw [UInt8.le_iff_toNat_le] at hlow hhigh
        obtain ⟨n, hn, hleast, hgreatest⟩ := ih h
        have hleast' : (bits * 64 + (b.toNat - 0x80)) * 64 ^ (count + 1) ≤ n := by
          rw [pow_succ', ← mul_assoc]
          simpa using hleast
        have hgreatest' : n < (bits * 64 + (b.toNat - 0x80) + 1) * 64 ^ (count + 1) := by
          rw [pow_succ', ← mul_assoc, add_mul _ 1]
          simpa using hgreatest
        exact ⟨n, hn, le_trans (Nat.mul_le_mul_right _ (by omega)) hleast',
          hgreatest'.trans_le (Nat.mul_le_mul_right _ (by omega))⟩
      · cases h

/-- What a first byte asks for: continuation bytes that are not ascii, and with them a
code point that is not ascii but is that of a character. -/
theorem exists_of_lead? {lead : Lead} (h : lead? b = some lead) :
    0x80 ≤ lead.low ∧ ∃ count least beyond, lead.count = count + 1 ∧
      (lead.bits * 64 + (lead.low.toNat - 0x80)) * 64 ^ count = least ∧
      (lead.bits * 64 + (lead.high.toNat - 0x80) + 1) * 64 ^ count = beyond ∧
      0x80 ≤ least ∧ (beyond ≤ 0xD800 ∨ 0xDFFF < least ∧ beyond ≤ 0x110000) := by
  have hbyte := b.toNat_lt
  unfold lead? at h
  simp only [UInt8.le_iff_toNat_le, ← UInt8.toNat_inj, UInt8.reduceToNat] at h
  split_ifs at h
  all_goals
    cases h
    refine ⟨by simp, _, _, _, rfl, rfl, rfl, ?_⟩
    simp only [UInt8.reduceToNat]
    omega

/-- A character of more than one byte is not ascii. -/
theorem le_toNat_of_unit (hb : ¬ b < 0x80) (h : (unit b rest).1 = some c) : 0x80 ≤ c.toNat := by
  rw [unit, if_neg hb] at h
  split at h
  · next lead hlead =>
    obtain ⟨-, count, least, beyond, hcount, hleast, hbeyond, hascii, hvalid⟩ :=
      exists_of_lead? hlead
    rw [hcount] at h
    obtain ⟨n, rfl, hge, hlt⟩ := exists_of_continuation h
    rw [toNat_ofNat (by omega)]
    omega
  · cases h

/-- A unit does not reach beyond an ascii byte. -/
theorem unit_append_cons (x : UInt8) (hb : b < 0x80) :
    unit x (xs ++ b :: rest) = ((unit x xs).1, (unit x xs).2 ++ b :: rest) := by
  unfold unit
  split
  · rfl
  · split
    · next lead hlead => exact continuation_append_cons hb (exists_of_lead? hlead).1
    · rfl

/-- An ascii byte is a unit of its own, and what stands before it falls into units as if
nothing came after it. -/
theorem units_append_cons (hb : b < 0x80) :
    units (xs ++ b :: rest) = units xs ++ some (Char.ofNat b.toNat) :: units rest := by
  fun_induction units xs with
  | case1 =>
    rw [List.nil_append, units, unit, if_pos hb]
    rfl
  | case2 x xs ih => rw [List.cons_append, units, unit_append_cons x hb, ih, List.cons_append]

/-- Decoding goes on behind an ascii byte as at the start of a text. -/
theorem decodeLossy_append_cons (hb : b < 0x80) :
    decodeLossy (xs ++ b :: rest) = decodeLossy xs ++ Char.ofNat b.toNat :: decodeLossy rest := by
  rw [decodeLossy, units_append_cons hb, List.map_append, List.map_cons]
  rfl

theorem decodeLossy_eq_nil_iff : decodeLossy bytes = [] ↔ bytes = [] := by
  cases bytes <;> simp [decodeLossy, units]

/-- Two parts are decoded apart if the first ends in an ascii byte. -/
theorem decodeLossy_append_of_getLast? (h : ∀ b ∈ xs.getLast?, b < 0x80) (rest : List UInt8) :
    decodeLossy (xs ++ rest) = decodeLossy xs ++ decodeLossy rest := by
  rcases List.eq_nil_or_concat' xs with rfl | ⟨before, b, rfl⟩
  · rw [decodeLossy_eq_nil_iff.mpr rfl, List.nil_append, List.nil_append]
  · have hb : b < 0x80 := h b (by simp)
    rw [List.append_assoc, List.singleton_append, decodeLossy_append_cons hb,
      decodeLossy_append_cons hb, decodeLossy_eq_nil_iff.mpr rfl, List.append_assoc]
    rfl

/-- They are decoded apart as well if the second starts with an ascii byte. -/
theorem decodeLossy_append_of_head? (h : ∀ b ∈ rest.head?, b < 0x80) :
    decodeLossy (xs ++ rest) = decodeLossy xs ++ decodeLossy rest := by
  cases rest with
  | nil => rw [decodeLossy_eq_nil_iff.mpr rfl, List.append_nil, List.append_nil]
  | cons b rest =>
    have hb : b < 0x80 := h b rfl
    have hrest : decodeLossy ([] ++ b :: rest) = decodeLossy [] ++ Char.ofNat b.toNat ::
        decodeLossy rest := decodeLossy_append_cons hb
    rw [List.nil_append, decodeLossy_eq_nil_iff.mpr rfl, List.nil_append] at hrest
    rw [decodeLossy_append_cons hb, hrest]

/-- A byte is the code point of the character that it stands for. -/
theorem toNat_char (b : UInt8) : (Char.ofNat b.toNat).toNat = b.toNat := by
  have hbyte := b.toNat_lt
  exact toNat_ofNat (by omega)

/-- The character of an ascii byte comes from that byte only. -/
theorem mem_of_mem_units (hb : b < 0x80) (h : some (Char.ofNat b.toNat) ∈ units bytes) :
    b ∈ bytes := by
  fun_induction units bytes with
  | case1 => cases h
  | case2 x xs ih =>
    rcases List.mem_cons.mp h with h | h
    · by_cases hx : x < 0x80
      · rw [unit, if_pos hx] at h
        have hvalue := congrArg Char.toNat (Option.some.inj h)
        rw [toNat_char, toNat_char] at hvalue
        exact UInt8.toNat_inj.mp hvalue ▸ List.mem_cons_self
      · have hge := le_toNat_of_unit hx h.symm
        rw [toNat_char] at hge
        exact absurd (UInt8.lt_iff_toNat_lt.mp hb) (Nat.not_lt.mpr hge)
    · exact List.mem_cons_of_mem _ ((unit_suffix x xs).mem (ih h))

/-- An ascii character is in a text just when its byte is in the bytes. -/
theorem mem_decodeLossy (hb : b < 0x80) : Char.ofNat b.toNat ∈ decodeLossy bytes ↔ b ∈ bytes := by
  constructor
  · intro h
    obtain ⟨_ | c, hunit, hchar⟩ := List.mem_map.mp h
    · -- The replacement character is not that of a byte.
      have hbyte := b.toNat_lt
      have hvalue : 0xFFFD = b.toNat := by rw [← toNat_char, ← hchar]; rfl
      omega
    · exact mem_of_mem_units hb (hchar ▸ hunit)
  · intro h
    obtain ⟨before, after, rfl⟩ := List.append_of_mem h
    rw [decodeLossy_append_cons hb]
    exact List.mem_append_right _ List.mem_cons_self

/-- Where a decoded text has an ascii character its bytes have that of the character, and what
stands around it is decoded by itself. -/
theorem exists_of_decodeLossy_eq {bytes : List UInt8} {cs ds : List Char} (hb : b < 0x80)
    (h : decodeLossy bytes = cs ++ Char.ofNat b.toNat :: ds) :
    ∃ before after, bytes = before ++ b :: after ∧ decodeLossy before = cs ∧
      decodeLossy after = ds := by
  have hmem : b ∈ bytes :=
    (mem_decodeLossy hb).mp (h ▸ List.mem_append_right cs List.mem_cons_self)
  -- The character is that of the first such byte, or else it stands behind it.
  obtain ⟨first, rest, rfl, hfirst⟩ := List.eq_append_cons_of_mem hmem
  have hnot := mt (mem_decodeLossy hb).mp hfirst
  rw [decodeLossy_append_cons hb] at h
  rcases List.append_eq_append_iff.mp h with ⟨more, hcs, hrest⟩ | ⟨more, hdecoded, hds⟩
  · cases more with
    | nil => exact ⟨first, rest, rfl, by simp [hcs], (List.cons.inj hrest).2⟩
    | cons d more =>
      obtain ⟨hd, hrest⟩ := List.cons.inj hrest
      obtain ⟨before, after, hsplit, hbefore, hafter⟩ := exists_of_decodeLossy_eq hb hrest
      refine ⟨first ++ b :: before, after, by simp [hsplit], ?_, hafter⟩
      rw [decodeLossy_append_cons hb, hbefore, hcs, hd]
  · cases more with
    | nil => exact ⟨first, rest, rfl, by simp [hdecoded], (List.cons.inj hds).2.symm⟩
    | cons d more =>
      obtain ⟨rfl, -⟩ := List.cons.inj hds
      exact absurd (hdecoded ▸ List.mem_append_right cs List.mem_cons_self) hnot
termination_by bytes.length
decreasing_by
  subst_vars
  simp only [List.length_append, List.length_cons]
  omega

/-- The characters of ascii bytes. -/
def ascii (bytes : List UInt8) : List Char :=
  bytes.map fun b => Char.ofNat b.toNat

/-- A decoded text that starts with ascii characters has bytes that start with theirs. -/
theorem exists_of_decodeLossy_eq_ascii_append {name : List UInt8} {ds : List Char}
    (hname : ∀ b ∈ name, b < 0x80) (h : decodeLossy bytes = ascii name ++ ds) :
    ∃ after, bytes = name ++ after ∧ decodeLossy after = ds := by
  induction name generalizing bytes with
  | nil => exact ⟨bytes, rfl, h⟩
  | cons b name ih =>
    obtain ⟨hb, hname⟩ := List.forall_mem_cons.mp hname
    have h : decodeLossy bytes = [] ++ Char.ofNat b.toNat :: (ascii name ++ ds) := h
    obtain ⟨before, rest, rfl, hbefore, hrest⟩ := exists_of_decodeLossy_eq hb h
    obtain ⟨after, rfl, hafter⟩ := ih hname hrest
    rw [decodeLossy_eq_nil_iff.mp hbefore]
    exact ⟨after, rfl, hafter⟩

/-- Wherever a decoded text has ascii characters, its bytes have theirs. -/
theorem exists_of_decodeLossy_eq_append_ascii {name : List UInt8} {cs ds : List Char}
    (hname : ∀ b ∈ name, b < 0x80) (hne : name ≠ [])
    (h : decodeLossy bytes = cs ++ ascii name ++ ds) :
    ∃ before after, bytes = before ++ name ++ after ∧ decodeLossy before = cs ∧
      decodeLossy after = ds := by
  cases name with
  | nil => exact absurd rfl hne
  | cons b name =>
    obtain ⟨hb, hname⟩ := List.forall_mem_cons.mp hname
    obtain ⟨before, rest, rfl, hbefore, hrest⟩ :=
      exists_of_decodeLossy_eq hb (h.trans (List.append_assoc ..))
    obtain ⟨after, rfl, hafter⟩ := exists_of_decodeLossy_eq_ascii_append hname hrest
    exact ⟨before, after, by simp, hbefore, hafter⟩

/-- Ascii bytes are decoded one by one. -/
theorem decodeLossy_of_ascii {name : List UInt8} (hname : ∀ b ∈ name, b < 0x80) :
    decodeLossy name = ascii name := by
  induction name with
  | nil => exact decodeLossy_eq_nil_iff.mpr rfl
  | cons b name ih =>
    obtain ⟨hb, hname⟩ := List.forall_mem_cons.mp hname
    have hcons : decodeLossy ([] ++ b :: name) = _ := decodeLossy_append_cons hb
    rw [List.nil_append, decodeLossy_eq_nil_iff.mpr rfl, List.nil_append, ih hname] at hcons
    exact hcons

/-- A decoded text starts with an ascii name just when its bytes do. -/
theorem ascii_prefix_decodeLossy {name : List UInt8} (hname : ∀ b ∈ name, b < 0x80) :
    ascii name <+: decodeLossy bytes ↔ name <+: bytes := by
  constructor
  · rintro ⟨ds, h⟩
    obtain ⟨after, rfl, -⟩ := exists_of_decodeLossy_eq_ascii_append hname h.symm
    exact List.prefix_append ..
  · rintro ⟨after, rfl⟩
    rw [decodeLossy_append_of_getLast? fun b hb => hname b (List.mem_of_getLast? hb),
      decodeLossy_of_ascii hname]
    exact List.prefix_append ..

/-- It ends in one just when its bytes do. -/
theorem ascii_suffix_decodeLossy {name : List UInt8} (hname : ∀ b ∈ name, b < 0x80) :
    ascii name <:+ decodeLossy bytes ↔ name <:+ bytes := by
  by_cases hne : name = []
  · simp [hne, ascii]
  constructor
  · rintro ⟨cs, h⟩
    obtain ⟨before, after, rfl, -, hafter⟩ :=
      exists_of_decodeLossy_eq_append_ascii hname hne (h.symm.trans (List.append_nil _).symm)
    rw [decodeLossy_eq_nil_iff.mp hafter, List.append_nil]
    exact List.suffix_append ..
  · rintro ⟨before, rfl⟩
    rw [decodeLossy_append_of_head? fun b hb => hname b (List.mem_of_mem_head? hb),
      decodeLossy_of_ascii hname]
    exact List.suffix_append ..

/-- Only the bytes of an ascii name are decoded to it. -/
theorem decodeLossy_eq_ascii_iff {name : List UInt8} (hname : ∀ b ∈ name, b < 0x80) :
    decodeLossy bytes = ascii name ↔ bytes = name := by
  constructor
  · intro h
    obtain ⟨after, rfl, hafter⟩ :=
      exists_of_decodeLossy_eq_ascii_append hname (h.trans (List.append_nil _).symm)
    rw [decodeLossy_eq_nil_iff.mp hafter, List.append_nil]
  · rintro rfl
    exact decodeLossy_of_ascii hname

/-- A text ends in an ascii character just when its bytes end in that of the character. -/
theorem getLast?_decodeLossy (hb : b < 0x80) (bytes : List UInt8) :
    (decodeLossy bytes).getLast? = some (Char.ofNat b.toNat) ↔ bytes.getLast? = some b := by
  by_cases hmem : b ∈ bytes
  · -- Any place where the byte stands will do: what follows it is shorter.
    obtain ⟨before, after, rfl⟩ := List.append_of_mem hmem
    rw [decodeLossy_append_cons hb]
    by_cases hafter : after = []
    · simp [hafter, decodeLossy_eq_nil_iff.mpr rfl]
    · have ih := getLast?_decodeLossy hb after
      rw [List.getLast?_append_of_ne_nil _ (List.cons_ne_nil _ _),
        List.getLast?_append_of_ne_nil _ (List.cons_ne_nil _ _),
        List.getLast?_cons_of_ne_nil (mt decodeLossy_eq_nil_iff.mp hafter),
        List.getLast?_cons_of_ne_nil hafter, ih]
  · have hnot := mt (mem_decodeLossy hb).mp hmem
    exact ⟨fun h => absurd (List.mem_of_getLast? h) hnot,
      fun h => absurd (List.mem_of_getLast? h) hmem⟩
termination_by bytes.length
decreasing_by
  all_goals
    subst_vars
    simp only [List.length_append, List.length_cons]
    omega

/-- Decoding keeps the borders that an ascii byte sets. -/
theorem splitOn_decodeLossy (hb : b < 0x80) (bytes : List UInt8) :
    (decodeLossy bytes).splitOn (Char.ofNat b.toNat) = (bytes.splitOn b).map decodeLossy := by
  by_cases hmem : b ∈ bytes
  · obtain ⟨before, after, rfl⟩ := List.append_of_mem hmem
    rw [decodeLossy_append_cons hb, List.splitOn_append_cons_self, List.splitOn_append_cons_self,
      List.map_append, splitOn_decodeLossy hb before, splitOn_decodeLossy hb after]
  · have hnot := mt (mem_decodeLossy hb).mp hmem
    rw [List.splitOn_eq_singleton hmem, List.splitOn_eq_singleton hnot]
    rfl
termination_by bytes.length
decreasing_by
  all_goals
    subst_vars
    simp only [List.length_append, List.length_cons]
    omega

end LeadingDot.Text.Utf8
