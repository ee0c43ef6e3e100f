import LeadingDot.Number.Binary64

/-!
# Shortest decimals

The decimal text of a floating point number uses the fewest digits that still read
back as the same number, and of the decimals with that many digits the one nearest to
it. Only the placing of the point is a matter of the format.
-/

namespace LeadingDot

/-- The number `digits · 10 ^ exponent`. -/
structure Decimal where
  digits : Nat
  exponent : Int
  deriving DecidableEq, Repr

namespace Decimal

/-- Number of decimal digits. -/
def digitCount (n : Nat) : Nat := (Nat.toDigits 10 n).length

/-- Compares `d · 10 ^ k` with `x · 2 ^ q`. -/
def compareBinary (d : Nat) (k : Int) (x : Nat) (q : Int) : Ordering :=
  compare (d * Nat.pow 10 k.toNat * Nat.pow 2 (-q).toNat)
    (x * Nat.pow 2 q.toNat * Nat.pow 10 (-k).toNat)

/-- The power of ten of the first digit of `m · 2 ^ q`, for `m` above zero. -/
def leadingPower (m : Nat) (q : Int) : Int :=
  let numerator := m * Nat.pow 2 q.toNat
  let denominator := Nat.pow 2 (-q).toNat
  if denominator ≤ numerator then
    digitCount (numerator / denominator) - 1
  else
    -(digitCount ((denominator + numerator - 1) / numerator - 1) : Int)

/-- The integer part of `m · 2 ^ q / 10 ^ k`. -/
def quotient (m : Nat) (q k : Int) : Nat :=
  (m * Nat.pow 2 q.toNat * Nat.pow 10 (-k).toNat) / (Nat.pow 2 (-q).toNat * Nat.pow 10 k.toNat)

/-- Whether `d · 10 ^ k` reads back as the number `m · 2 ^ q`. Midpoints between two
numbers read back as the one with the even significand. -/
def readsBack (m : Nat) (q : Int) (narrow : Bool) (d : Nat) (k : Int) : Bool :=
  let low := compareBinary d k (if narrow then 4 * m - 1 else 4 * m - 2) (q - 2)
  let high := compareBinary d k (4 * m + 2) (q - 2)
  if m % 2 = 0 then low != .lt && high != .gt else low == .gt && high == .lt

/-- Whether `d` is at least as near to `m · 2 ^ q / 10 ^ k` as `d + 1` is. A tie goes to
the even one. -/
def lowerIsNearer (m : Nat) (q : Int) (d : Nat) (k : Int) : Bool :=
  match compareBinary (2 * d + 1) k (2 * m) q with
  | .gt => true
  | .eq => d % 2 == 0
  | .lt => false

/-- The nearest decimal on the grid of multiples of `10 ^ k` that reads back. -/
def onGrid? (m : Nat) (q : Int) (narrow : Bool) (k : Int) : Option Decimal :=
  let d := quotient m q k
  let order := if lowerIsNearer m q d k then [d, d + 1] else [d + 1, d]
  (order.find? fun candidate => readsBack m q narrow candidate k).map (⟨·, k⟩)

/-- The shortest decimal of `m · 2 ^ q`. Seventeen digits always read back. -/
def shortest (m : Nat) (q : Int) (narrow : Bool) : Decimal :=
  if m = 0 then ⟨0, 0⟩
  else
    let power := leadingPower m q
    ((List.range 18).findSome? fun (n : Nat) => onGrid? m q narrow (power + 1 - n)).getD ⟨0, 0⟩

/-- The digits with the point placed, and with at least one digit on either side of it. -/
def positional (decimal : Decimal) : String :=
  let digits := Nat.toDigits 10 decimal.digits
  if 0 ≤ decimal.exponent then
    String.ofList (digits ++ List.replicate decimal.exponent.toNat '0' ++ ['.', '0'])
  else
    let places := (-decimal.exponent).toNat
    let filled := List.replicate (places + 1 - digits.length) '0' ++ digits
    let whole := filled.length - places
    String.ofList (filled.take whole ++ '.' :: filled.drop whole)

/-- The first digit, the others after a point, and the power of ten with its sign. -/
def scientific (decimal : Decimal) : String :=
  let digits := Nat.toDigits 10 decimal.digits
  let power := decimal.exponent + digits.length - 1
  let fraction := if digits.length = 1 then [] else '.' :: digits.drop 1
  let sign := if power < 0 then "e-" else "e+"
  String.ofList (digits.take 1 ++ fraction) ++ sign ++ toString power.natAbs

end Decimal

namespace Binary64

/-- Which decimals are written with the point in place, by the power of ten of their
first digit; the others are written with a power of ten. -/
structure Format where
  inPlace : Int → Bool

/-- The point is always in place. -/
def plainFormat : Format := ⟨fun _ => true⟩

/-- Numbers from `0.00001` and below `10 ^ 16` have their point in place. -/
def compactFormat : Format := ⟨fun power => -5 ≤ power && power ≤ 15⟩

/-- The text of a number in a format. -/
def text (format : Format) (x : Binary64) : String :=
  match x.parts with
  | .nan => "NaN"
  | .infinite negative => if negative then "-inf" else "inf"
  | .finite negative significand exponent narrow =>
    let decimal := Decimal.shortest significand exponent narrow
    let power := decimal.exponent + Decimal.digitCount decimal.digits - 1
    (if negative then "-" else "") ++
      if format.inPlace power then decimal.positional else decimal.scientific

end Binary64

end LeadingDot
