/-!
# Binary floating point numbers

A number of the 64-bit binary format, kept as its bit pattern so that equality is
equality of numbers as written. A finite number is a sign, a significand and a power
of two.
-/

namespace LeadingDot

/-- A 64-bit floating point number, by its bits. -/
structure Binary64 where
  bits : UInt64
  deriving DecidableEq, Repr

namespace Binary64

/-- What the bits of a number say. -/
inductive Parts where
  /-- `significand · 2 ^ exponent`. `narrow` marks the least number of its binade, whose
  neighbour below is at half the distance of the one above. -/
  | finite (negative : Bool) (significand : Nat) (exponent : Int) (narrow : Bool)
  | infinite (negative : Bool)
  | nan

/-- The significand of a number whose fraction is zero: the fraction has 52 bits. -/
def hiddenBit : Nat := 0x10000000000000

/-- Splits a number into its parts. -/
def parts (x : Binary64) : Parts :=
  let n := x.bits.toNat
  let negative := x.bits >>> 63 == 1
  let biased : Nat := n / hiddenBit % 2048
  let fraction : Nat := n % hiddenBit
  if biased = 2047 then
    if fraction = 0 then .infinite negative else .nan
  else if biased = 0 then .finite negative fraction (-1074) false
  else
    .finite negative (fraction + hiddenBit) ((biased : Int) - 1075)
      (fraction == 0 && biased != 1)

/-- Whether a number is neither infinite nor no number at all. -/
def isFinite (x : Binary64) : Bool :=
  match x.parts with
  | .finite .. => true
  | _ => false

/-- The number with a sign, read off the bits of a magnitude. -/
def signed (negative : Bool) (magnitude : Float) : Binary64 :=
  ⟨(if negative then -magnitude else magnitude).toBits⟩

/-- The number nearest to `±mantissa · 10 ^ exponent`. Magnitudes far beyond the format
are decided by their number of digits alone. -/
def ofDecimal (negative : Bool) (mantissa : Nat) (exponent : Int) : Binary64 :=
  let magnitude : Int := exponent + (Nat.toDigits 10 mantissa).length
  if mantissa = 0 ∨ magnitude < -400 then signed negative 0
  else if 400 < magnitude then signed negative (1 / 0)
  else signed negative (Float.ofScientific mantissa (exponent < 0) exponent.natAbs)

/-- Positive infinity. -/
def infinity : Binary64 := signed false (1 / 0)

/-- Negative infinity. -/
def negativeInfinity : Binary64 := signed true (1 / 0)

/-- No number. -/
def notANumber : Binary64 := ⟨0x7FF8000000000000⟩

end Binary64

end LeadingDot
