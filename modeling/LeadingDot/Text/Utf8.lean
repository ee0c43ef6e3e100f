/-!
# UTF-8

A byte string falls into units, each a character or a malformed start of one. A
malformed unit is as long as it can be without holding a byte that no character
continues with, so the byte that breaks a character off begins the next unit.

Strict decoding wants every unit to be a character; lossy decoding puts the
replacement character in place of each malformed unit.
-/

namespace LeadingDot.Text.Utf8

/-- How a character of more than one byte goes on after its first byte. -/
structure Lead where
  /-- Number of continuation bytes. -/
  count : Nat
  /-- Least second byte. -/
  low : UInt8
  /-- Greatest second byte. -/
  high : UInt8
  /-- The bits that the first byte gives to the code point. -/
  bits : Nat

/-- The continuation that a first byte asks for. `0xC0`, `0xC1` and the bytes from
`0xF5` start no character; the second byte is bounded so that no character has a
longer form than it needs, is a surrogate, or lies beyond the last code point. -/
def lead? (b : UInt8) : Option Lead :=
  if 0xC2 ≤ b ∧ b ≤ 0xDF then some ⟨1, 0x80, 0xBF, b.toNat - 0xC0⟩
  else if b = 0xE0 then some ⟨2, 0xA0, 0xBF, 0⟩
  else if b = 0xED then some ⟨2, 0x80, 0x9F, 0xD⟩
  else if 0xE1 ≤ b ∧ b ≤ 0xEF then some ⟨2, 0x80, 0xBF, b.toNat - 0xE0⟩
  else if b = 0xF0 then some ⟨3, 0x90, 0xBF, 0⟩
  else if 0xF1 ≤ b ∧ b ≤ 0xF3 then some ⟨3, 0x80, 0xBF, b.toNat - 0xF0⟩
  else if b = 0xF4 then some ⟨3, 0x80, 0x8F, 4⟩
  else none

/-- Reads `count` continuation bytes, the first between `low` and `high`, onto the
bits read so far, and gives the character, if it was complete, with the bytes after
the unit. -/
def continuation : (count : Nat) → (low high : UInt8) → (bits : Nat) → List UInt8 →
    Option Char × List UInt8
  | 0, _, _, bits, rest => (some (Char.ofNat bits), rest)
  | _ + 1, _, _, _, [] => (none, [])
  | count + 1, low, high, bits, b :: rest =>
    if low ≤ b ∧ b ≤ high then
      continuation count 0x80 0xBF (bits * 64 + (b.toNat - 0x80)) rest
    else
      (none, b :: rest)

/-- The unit that starts with byte `b`: its character, unless it is malformed, and
the bytes after it. -/
def unit (b : UInt8) (rest : List UInt8) : Option Char × List UInt8 :=
  if b < 0x80 then (some (Char.ofNat b.toNat), rest)
  else match lead? b with
    | some lead => continuation lead.count lead.low lead.high lead.bits rest
    | none => (none, rest)

theorem continuation_length_le (count : Nat) (low high : UInt8) (bits : Nat)
    (bytes : List UInt8) :
    (continuation count low high bits bytes).2.length ≤ bytes.length := by
  induction count generalizing low high bits bytes with
  | zero => simp [continuation]
  | succ count ih =>
    cases bytes with
    | nil => simp [continuation]
    | cons b rest =>
      simp only [continuation]
      split
      · exact Nat.le_succ_of_le (ih ..)
      · simp

/-- A unit takes its first byte and some of the bytes after it. -/
theorem unit_length_le (b : UInt8) (rest : List UInt8) :
    (unit b rest).2.length ≤ rest.length := by
  unfold unit
  split
  · simp
  · split
    · exact continuation_length_le ..
    · simp

/-- The units of a byte string, malformed ones as `none`. -/
def units : List UInt8 → List (Option Char)
  | [] => []
  | b :: rest => (unit b rest).1 :: units (unit b rest).2
termination_by bytes => bytes.length
decreasing_by
  have := unit_length_le b rest
  simp only [List.length_cons]
  omega

/-- The bytes of a text. -/
def encode (cs : List Char) : List UInt8 :=
  cs.flatMap String.utf8EncodeChar

/-- The characters of a byte string, if it is well formed. -/
def decode? (bytes : List UInt8) : Option (List Char) :=
  (units bytes).mapM id

/-- The characters of a byte string, with U+FFFD for each malformed unit. -/
def decodeLossy (bytes : List UInt8) : List Char :=
  (units bytes).map (·.getD '\uFFFD')

end LeadingDot.Text.Utf8
