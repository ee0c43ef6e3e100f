import LeadingDot.Proofs.Text.Utf8

/-!
# Decoded text spells its bytes

A character that is decoded from some bytes is encoded as these bytes and no others, as no
character has a second form. The text of well-formed bytes therefore spells the bytes.
-/

namespace LeadingDot.Text.Utf8

variable {b low high : UInt8} {count bits : Nat} {bytes rest after : List UInt8} {c : Char}

theorem encode_eq_nil_iff {cs : List Char} : encode cs = [] ↔ cs = [] := by
  cases cs <;> simp [encode, String.utf8EncodeChar_ne_nil]

/-- The bytes of a text are those of the string. -/
theorem toUTF8_ofList (cs : List Char) : (String.ofList cs).toUTF8.data.toList = encode cs := by
  rw [String.toUTF8_eq_toByteArray, String.toByteArray_ofList, List.utf8Encode]
  simp [encode]

/-- A character that is not complete takes a byte within the bounds, and goes on after it. -/
theorem exists_cons_of_continuation
    (h : continuation (count + 1) low high bits bytes = (some c, after)) :
    ∃ b rest, bytes = b :: rest ∧ low.toNat ≤ b.toNat ∧ b.toNat ≤ high.toNat ∧
      continuation count 0x80 0xBF (bits * 64 + (b.toNat - 0x80)) rest = (some c, after) := by
  cases bytes with
  | nil => cases h
  | cons b rest =>
    rw [continuation] at h
    split at h
    · next hb =>
      rw [UInt8.le_iff_toNat_le, UInt8.le_iff_toNat_le] at hb
      exact ⟨b, rest, rfl, hb.1, hb.2, h⟩
    · cases h

/-- A character that is complete has the bits for its code point. -/
theorem eq_of_continuation_zero (h : continuation 0 low high bits bytes = (some c, after)) :
    Char.ofNat bits = c ∧ bytes = after := by
  rwa [continuation, Prod.mk.injEq, Option.some.injEq] at h

/-- The lead bytes by the number of bytes that follow: what they give to the code point, and
the bounds that leave out longer forms, surrogates and what is no code point. -/
theorem lead?_cases {lead : Lead} (h : lead? b = some lead) :
    0x80 ≤ lead.low.toNat ∧ lead.high.toNat ≤ 0xBF ∧
      (lead.count = 1 ∧ b.toNat = 0xC0 + lead.bits ∧ 2 ≤ lead.bits ∧ lead.bits < 0x20 ∨
        lead.count = 2 ∧ b.toNat = 0xE0 + lead.bits ∧ lead.bits < 0x10 ∧
          0x20 ≤ lead.bits * 64 + (lead.low.toNat - 0x80) ∧
          (lead.bits * 64 + (lead.high.toNat - 0x80) < 0x360 ∨
            0x380 ≤ lead.bits * 64 + (lead.low.toNat - 0x80)) ∨
        lead.count = 3 ∧ b.toNat = 0xF0 + lead.bits ∧
          0x10 ≤ lead.bits * 64 + (lead.low.toNat - 0x80) ∧
          lead.bits * 64 + (lead.high.toNat - 0x80) < 0x110) := by
  have hbyte := b.toNat_lt
  unfold lead? at h
  simp only [UInt8.le_iff_toNat_le, ← UInt8.toNat_inj, UInt8.reduceToNat] at h
  split_ifs at h
  all_goals
    cases h
    simp only [UInt8.reduceToNat, Nat.reduceEqDiff, true_and, false_and, or_false, false_or]
    omega

/-- A character is encoded as its code point asks for. -/
theorem encodeChar_ofNat {n : Nat} (h : n < 0xD800 ∨ 0xDFFF < n ∧ n < 0x110000) :
    String.utf8EncodeChar (Char.ofNat n) =
      if n ≤ 0x7F then [UInt8.ofNat n]
      else if n ≤ 0x7FF then [UInt8.ofNat (n / 64 % 32 + 0xC0), UInt8.ofNat (n % 64 + 0x80)]
      else if n ≤ 0xFFFF then
        [UInt8.ofNat (n / 4096 % 16 + 0xE0), UInt8.ofNat (n / 64 % 64 + 0x80),
          UInt8.ofNat (n % 64 + 0x80)]
      else
        [UInt8.ofNat (n / 262144 % 8 + 0xF0), UInt8.ofNat (n / 4096 % 64 + 0x80),
          UInt8.ofNat (n / 64 % 64 + 0x80), UInt8.ofNat (n % 64 + 0x80)] := by
  have hval : (Char.ofNat n).val.toNat = n := toNat_ofNat h
  rw [String.utf8EncodeChar, hval]

/-- The bytes of a unit are those of its character. -/
theorem encodeChar_of_unit (h : unit b rest = (some c, after)) :
    b :: rest = String.utf8EncodeChar c ++ after := by
  have hbyte : ∀ {x : UInt8} {n : Nat}, x.toNat = n → UInt8.ofNat n = x := by
    rintro x n rfl
    exact UInt8.ofNat_toNat
  unfold unit at h
  split at h
  · next hb =>
    simp only [UInt8.lt_iff_toNat_lt, UInt8.reduceToNat] at hb
    rw [Prod.mk.injEq, Option.some.injEq] at h
    obtain ⟨rfl, rfl⟩ := h
    rw [encodeChar_ofNat (by omega), if_pos (by omega), UInt8.ofNat_toNat]
    rfl
  · split at h
    · next lead hlead =>
      obtain ⟨hlow, hhigh, ⟨hcount, hb, hleast, hgreatest⟩ |
        ⟨hcount, hb, hgreatest, hleast, hvalid⟩ | ⟨hcount, hb, hleast, hgreatest⟩⟩ :=
        lead?_cases hlead
      · rw [hcount] at h
        obtain ⟨x, rest, rfl, hx, hx', h⟩ := exists_cons_of_continuation h
        obtain ⟨rfl, rfl⟩ := eq_of_continuation_zero h
        rw [encodeChar_ofNat (by omega), if_neg (by omega), if_pos (by omega)]
        rw [hbyte (x := b) (by omega), hbyte (x := x) (by omega)]
        rfl
      · rw [hcount] at h
        obtain ⟨x, rest, rfl, hx, hx', h⟩ := exists_cons_of_continuation h
        obtain ⟨y, rest, rfl, hy, hy', h⟩ := exists_cons_of_continuation h
        simp only [UInt8.reduceToNat] at hy hy'
        obtain ⟨rfl, rfl⟩ := eq_of_continuation_zero h
        rw [encodeChar_ofNat (by omega), if_neg (by omega), if_neg (by omega), if_pos (by omega)]
        rw [hbyte (x := b) (by omega), hbyte (x := x) (by omega), hbyte (x := y) (by omega)]
        rfl
      · rw [hcount] at h
        obtain ⟨x, rest, rfl, hx, hx', h⟩ := exists_cons_of_continuation h
        obtain ⟨y, rest, rfl, hy, hy', h⟩ := exists_cons_of_continuation h
        obtain ⟨z, rest, rfl, hz, hz', h⟩ := exists_cons_of_continuation h
        simp only [UInt8.reduceToNat] at hy hy' hz hz'
        obtain ⟨rfl, rfl⟩ := eq_of_continuation_zero h
        rw [encodeChar_ofNat (by omega), if_neg (by omega), if_neg (by omega), if_neg (by omega)]
        rw [hbyte (x := b) (by omega), hbyte (x := x) (by omega), hbyte (x := y) (by omega),
          hbyte (x := z) (by omega)]
        rfl
    · cases h

/-- The text of well-formed bytes spells the bytes. -/
theorem encode_of_decode? {cs : List Char} (h : decode? bytes = some cs) : encode cs = bytes := by
  rw [decode?] at h
  fun_induction units bytes generalizing cs with
  | case1 =>
    cases h
    rfl
  | case2 b rest ih =>
    rw [List.mapM_cons] at h
    obtain ⟨c, hc, h⟩ := Option.bind_eq_some_iff.mp h
    obtain ⟨cs', hcs, h⟩ := Option.bind_eq_some_iff.mp h
    cases h
    rw [encode, List.flatMap_cons]
    have hunit : unit b rest = (some c, (unit b rest).2) := Prod.ext hc rfl
    rw [encodeChar_of_unit hunit, ← ih hcs]
    rfl

/-- A character that is complete is the same whatever follows its bytes. -/
theorem continuation_append (h : continuation count low high bits bytes = (some c, after))
    (more : List UInt8) :
    continuation count low high bits (bytes ++ more) = (some c, after ++ more) := by
  fun_induction continuation count low high bits bytes with
  | case1 low high bits bytes =>
    cases h
    rfl
  | case2 => cases h
  | case3 low high bits count b rest hb ih =>
    rw [List.cons_append, continuation, if_pos hb]
    exact ih h
  | case4 => cases h

theorem unit_append (h : unit b rest = (some c, after)) (more : List UInt8) :
    unit b (rest ++ more) = (some c, after ++ more) := by
  unfold unit at h ⊢
  split at h
  · next hb =>
    cases h
    rw [if_pos hb]
  · next hb =>
    rw [if_neg hb]
    split at h
    · exact continuation_append h more
    · cases h

/-- Well-formed bytes are decoded by themselves, whatever follows them. -/
theorem decode?_append {cs : List Char} (h : decode? bytes = some cs) (more : List UInt8) :
    decode? (bytes ++ more) = (decode? more).map (cs ++ ·) := by
  rw [decode?] at h
  fun_induction units bytes generalizing cs with
  | case1 =>
    cases h
    simp
  | case2 b rest ih =>
    rw [List.mapM_cons] at h
    obtain ⟨c, hc, h⟩ := Option.bind_eq_some_iff.mp h
    obtain ⟨cs', hcs, h⟩ := Option.bind_eq_some_iff.mp h
    cases h
    have hunit := unit_append (Prod.ext hc rfl : unit b rest = (some c, (unit b rest).2)) more
    have hmore := ih hcs
    rw [decode?] at hmore ⊢
    rw [List.cons_append, units, hunit, List.mapM_cons, hmore]
    cases decode? more <;> rfl

/-- A lead byte and a second byte that start a character, as numbers, by the number of bytes
after the first: what the lead byte gives to the code point, and the second bytes that leave
out longer forms, surrogates and what is no code point. -/
def StartsChar (count lead bits second : Nat) : Prop :=
  0x80 ≤ second ∧ second ≤ 0xBF ∧
    (count = 1 ∧ lead = 0xC0 + bits ∧ 2 ≤ bits ∧ bits < 0x20 ∨
      count = 2 ∧ lead = 0xE0 + bits ∧ bits < 0x10 ∧
        (bits = 0 → 0xA0 ≤ second) ∧ (bits = 0xD → second ≤ 0x9F) ∨
      count = 3 ∧ lead = 0xF0 + bits ∧ bits ≤ 4 ∧
        (bits = 0 → 0x90 ≤ second) ∧ (bits = 4 → second ≤ 0x8F))

/-- The lead byte of a character leaves room for its second byte. -/
theorem exists_lead? {second : Nat} (h : StartsChar count b.toNat bits second) :
    ∃ lead, lead? b = some lead ∧ lead.count = count ∧ lead.bits = bits ∧
      lead.low.toNat ≤ second ∧ second ≤ lead.high.toNat := by
  unfold StartsChar at h
  unfold lead?
  simp only [UInt8.le_iff_toNat_le, ← UInt8.toNat_inj, UInt8.reduceToNat]
  split_ifs
  all_goals
    first
    | omega
    | refine ⟨_, rfl, ?_⟩
      simp only [UInt8.reduceToNat]
      omega

theorem toNat_ofNat_of_lt {n : Nat} (h : n < 256) : (UInt8.ofNat n).toNat = n := by
  rw [UInt8.toNat_ofNat', Nat.mod_eq_of_lt h]

/-- A byte within the bounds goes on with a character. -/
theorem continuation_cons {n : Nat} (hn : low.toNat ≤ n ∧ n ≤ high.toNat) (rest : List UInt8) :
    continuation (count + 1) low high bits (UInt8.ofNat n :: rest) =
      continuation count 0x80 0xBF (bits * 64 + (n - 0x80)) rest := by
  have hbyte := high.toNat_lt
  have hvalue : (UInt8.ofNat n).toNat = n := toNat_ofNat_of_lt (by omega)
  rw [continuation, if_pos, hvalue]
  rwa [UInt8.le_iff_toNat_le, UInt8.le_iff_toNat_le, hvalue]

/-- A lead byte and a second byte that start a character leave the bits of both. -/
theorem unit_cons {lead second : Nat} (hlead : lead < 256)
    (h : StartsChar (count + 1) lead bits second) (rest : List UInt8) :
    unit (UInt8.ofNat lead) (UInt8.ofNat second :: rest) =
      continuation count 0x80 0xBF (bits * 64 + (second - 0x80)) rest := by
  have hvalue := toNat_ofNat_of_lt hlead
  obtain ⟨⟨_, low, high, _⟩, hfound, rfl, rfl, hbounds⟩ := exists_lead? (hvalue.symm ▸ h)
  have hascii : ¬ UInt8.ofNat lead < 0x80 := by
    unfold StartsChar at h
    simp only [UInt8.lt_iff_toNat_lt, hvalue, UInt8.reduceToNat]
    omega
  rw [unit, if_neg hascii, hfound]
  exact continuation_cons hbounds rest

/-- The bytes of a character are a unit, whatever follows them. -/
theorem exists_unit_encodeChar (c : Char) (more : List UInt8) :
    ∃ b rest, String.utf8EncodeChar c = b :: rest ∧ unit b (rest ++ more) = (some c, more) := by
  have hc : c.toNat < 0xD800 ∨ 0xDFFF < c.toNat ∧ c.toNat < 0x110000 := c.valid
  obtain ⟨n, hn, rfl⟩ : ∃ n, (n < 0xD800 ∨ 0xDFFF < n ∧ n < 0x110000) ∧ Char.ofNat n = c :=
    ⟨c.toNat, hc, Char.ofNat_toNat c⟩
  have hnext : ∀ k : Nat, (0x80 : UInt8).toNat ≤ k % 64 + 0x80 ∧
      k % 64 + 0x80 ≤ (0xBF : UInt8).toNat := by
    intro k
    simp only [UInt8.reduceToNat]
    omega
  rw [encodeChar_ofNat hn]
  split_ifs with hone htwo hthree
  · refine ⟨_, _, rfl, ?_⟩
    have hvalue : (UInt8.ofNat n).toNat = n := toNat_ofNat_of_lt (by omega)
    have hascii : UInt8.ofNat n < 0x80 := by
      simp only [UInt8.lt_iff_toNat_lt, hvalue, UInt8.reduceToNat]
      omega
    rw [unit, if_pos hascii, hvalue]
    rfl
  · refine ⟨_, _, rfl, ?_⟩
    have hstart : StartsChar 1 (n / 64 % 32 + 0xC0) (n / 64 % 32) (n % 64 + 0x80) := by
      unfold StartsChar
      omega
    have hbits : n / 64 % 32 * 64 + (n % 64 + 0x80 - 0x80) = n := by omega
    have hunit := unit_cons (by omega) hstart more
    rw [hbits] at hunit
    exact hunit
  · refine ⟨_, _, rfl, ?_⟩
    have hstart : StartsChar 2 (n / 4096 % 16 + 0xE0) (n / 4096 % 16) (n / 64 % 64 + 0x80) := by
      unfold StartsChar
      omega
    have hbits : (n / 4096 % 16 * 64 + (n / 64 % 64 + 0x80 - 0x80)) * 64 +
        (n % 64 + 0x80 - 0x80) = n := by omega
    have hunit := unit_cons (by omega) hstart (UInt8.ofNat (n % 64 + 0x80) :: more)
    rw [continuation_cons (hnext n), hbits] at hunit
    exact hunit
  · refine ⟨_, _, rfl, ?_⟩
    have hstart : StartsChar 3 (n / 262144 % 8 + 0xF0) (n / 262144 % 8)
        (n / 4096 % 64 + 0x80) := by
      unfold StartsChar
      omega
    have hbits : ((n / 262144 % 8 * 64 + (n / 4096 % 64 + 0x80 - 0x80)) * 64 +
        (n / 64 % 64 + 0x80 - 0x80)) * 64 + (n % 64 + 0x80 - 0x80) = n := by omega
    have hunit := unit_cons (by omega) hstart
      (UInt8.ofNat (n / 64 % 64 + 0x80) :: UInt8.ofNat (n % 64 + 0x80) :: more)
    rw [continuation_cons (hnext (n / 64)), continuation_cons (hnext n), hbits] at hunit
    exact hunit

/-- A text is read back from its bytes. -/
theorem decode?_encode (cs : List Char) : decode? (encode cs) = some cs := by
  rw [decode?]
  induction cs with
  | nil =>
    rw [encode, List.flatMap_nil, units]
    rfl
  | cons c cs ih =>
    obtain ⟨b, rest, hbytes, hunit⟩ := exists_unit_encodeChar c (encode cs)
    have hcons : encode (c :: cs) = b :: (rest ++ encode cs) := by
      rw [encode, List.flatMap_cons, hbytes]
      rfl
    rw [hcons, units, hunit, List.mapM_cons, ih]
    rfl

/-- Well-formed bytes are decoded without loss. -/
theorem decodeLossy_of_decode? {cs : List Char} (h : decode? bytes = some cs) :
    decodeLossy bytes = cs := by
  rw [decode?] at h
  rw [decodeLossy]
  fun_induction units bytes generalizing cs with
  | case1 =>
    cases h
    rfl
  | case2 b rest ih =>
    rw [List.mapM_cons] at h
    obtain ⟨c, hc, h⟩ := Option.bind_eq_some_iff.mp h
    obtain ⟨cs', hcs, h⟩ := Option.bind_eq_some_iff.mp h
    cases h
    rw [List.map_cons, ih hcs, show (unit b rest).1 = some c from hc]
    rfl

theorem decodeLossy_encode (cs : List Char) : decodeLossy (encode cs) = cs :=
  decodeLossy_of_decode? (decode?_encode cs)

/-- The well-formed bytes are those of texts. -/
theorem decode?_eq_some_iff {cs : List Char} : decode? bytes = some cs ↔ bytes = encode cs := by
  constructor
  · intro h
    exact (encode_of_decode? h).symm
  · rintro rfl
    exact decode?_encode cs

/-! ### Bytes of a text -/

/-- Whether some bytes are those of a text. -/
def IsText (bytes : List UInt8) : Prop :=
  ∃ cs, bytes = encode cs

theorem isText_encode (cs : List Char) : IsText (encode cs) :=
  ⟨cs, rfl⟩

theorem isText_iff : IsText bytes ↔ (decode? bytes).isSome := by
  simp only [IsText, Option.isSome_iff_exists, decode?_eq_some_iff]

theorem IsText.encode_decodeLossy (h : IsText bytes) : encode (decodeLossy bytes) = bytes := by
  obtain ⟨cs, rfl⟩ := h
  rw [Utf8.decodeLossy_encode]

theorem isText_nil : IsText [] :=
  isText_encode []

/-- The bytes on both sides of an ascii byte are read for themselves. -/
theorem isText_append_cons (hb : b < 0x80) :
    IsText (bytes ++ b :: rest) ↔ IsText bytes ∧ IsText rest := by
  simp only [isText_iff, decode?]
  rw [units_append_cons hb, List.mapM_append, List.mapM_cons]
  cases (units bytes).mapM id <;> cases (units rest).mapM id <;> simp

theorem isText_cons (hb : b < 0x80) : IsText (b :: rest) ↔ IsText rest := by
  rw [← List.nil_append (b :: rest), isText_append_cons hb]
  exact and_iff_right isText_nil

theorem isText_concat (hb : b < 0x80) : IsText (bytes ++ [b]) ↔ IsText bytes :=
  (isText_append_cons hb).trans (and_iff_left isText_nil)

/-- What stands between ascii bytes of a text is a text. -/
theorem isText_of_mem_splitOn {bytes piece : List UInt8} (hb : b < 0x80) (h : IsText bytes)
    (hpiece : piece ∈ bytes.splitOn b) : IsText piece := by
  by_cases hmem : b ∈ bytes
  · obtain ⟨before, after, rfl⟩ := List.append_of_mem hmem
    obtain ⟨hbefore, hafter⟩ := (isText_append_cons hb).mp h
    rw [List.splitOn_append_cons_self] at hpiece
    rcases List.mem_append.mp hpiece with hpiece | hpiece
    · exact isText_of_mem_splitOn hb hbefore hpiece
    · exact isText_of_mem_splitOn hb hafter hpiece
  · rw [List.splitOn_eq_singleton hmem, List.mem_singleton] at hpiece
    rwa [hpiece]
termination_by bytes.length
decreasing_by
  all_goals
    subst_vars
    simp only [List.length_append, List.length_cons]
    omega

end LeadingDot.Text.Utf8
