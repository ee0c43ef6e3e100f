import LeadingDot.Proofs.Text.Encoding
import Mathlib.Data.String.Basic

/-!
# The order of bytes

Texts are ordered as their bytes are. A character whose code point is less has a lead byte that
is less, or the same one, and then the first continuation byte that differs is less.
-/

namespace LeadingDot.Text.Utf8

/-- A lesser character has lesser bytes, whatever comes after them. -/
theorem encodeChar_append_lt {c d : Char} (h : c < d) (after others : List UInt8) :
    String.utf8EncodeChar c ++ after < String.utf8EncodeChar d ++ others := by
  have hc : c.toNat < 0xD800 ∨ 0xDFFF < c.toNat ∧ c.toNat < 0x110000 := c.valid
  have hd : d.toNat < 0xD800 ∨ 0xDFFF < d.toNat ∧ d.toNat < 0x110000 := d.valid
  have hlt : c.toNat < d.toNat := h
  have hcd : String.utf8EncodeChar c = String.utf8EncodeChar (.ofNat c.toNat) ∧
      String.utf8EncodeChar d = String.utf8EncodeChar (.ofNat d.toNat) := by
    rw [Char.ofNat_toNat, Char.ofNat_toNat]
    exact ⟨rfl, rfl⟩
  rw [hcd.1, hcd.2, encodeChar_ofNat hc, encodeChar_ofNat hd]
  generalize c.toNat = m at *
  generalize d.toNat = n at *
  split_ifs
  all_goals
    simp only [List.cons_append, List.nil_append, List.cons_lt_cons_iff, UInt8.lt_iff_toNat_lt,
      ← UInt8.toNat_inj, UInt8.toNat_ofNat', Nat.reducePow]
    simp (disch := omega) only [Nat.mod_eq_of_lt]
    omega

theorem encode_lt_encode {cs ds : List Char} (h : cs < ds) : encode cs < encode ds := by
  induction cs generalizing ds with
  | nil =>
    cases ds with
    | nil => exact absurd h (List.lt_irrefl _)
    | cons d ds =>
      obtain ⟨b, rest, hbytes⟩ := List.exists_cons_of_ne_nil
        (mt encode_eq_nil_iff.mp (List.cons_ne_nil d ds))
      rw [hbytes]
      exact List.nil_lt_cons ..
  | cons c cs ih =>
    cases ds with
    | nil => exact absurd h (List.not_lt_nil _)
    | cons d ds =>
      rcases List.cons_lt_cons_iff.mp h with hlt | ⟨rfl, hlt⟩
      · exact encodeChar_append_lt hlt ..
      · exact List.append_left_lt (ih hlt)

/-- Strings are ordered as their bytes are. -/
theorem lt_iff_toUTF8_lt (a b : String) :
    a < b ↔ a.toUTF8.data.toList < b.toUTF8.data.toList := by
  have hlt : ∀ {a b : String}, a < b → a.toUTF8.data.toList < b.toUTF8.data.toList := by
    intro a b h
    rw [← String.ofList_toList (s := a), ← String.ofList_toList (s := b), toUTF8_ofList,
      toUTF8_ofList]
    exact encode_lt_encode (String.lt_iff.mp h)
  refine ⟨hlt, fun h => ?_⟩
  rcases lt_trichotomy a b with hab | rfl | hba
  · exact hab
  · exact absurd h (List.lt_irrefl _)
  · exact absurd (List.lt_trans h (hlt hba)) (List.lt_irrefl _)

end LeadingDot.Text.Utf8
