/-!
# Classes of code points

A property of the character database is a list of inclusive code point ranges.
Each property of this library is one such table, and membership is the only
question asked of it.
-/

namespace LeadingDot.Text

/-- A set of code points, as inclusive ranges. -/
abbrev CodePoints := List (Nat × Nat)

/-- Whether a character's code point lies in one of the ranges. -/
def CodePoints.has (ranges : CodePoints) (c : Char) : Bool :=
  ranges.any fun range => range.1 ≤ c.toNat && c.toNat ≤ range.2

end LeadingDot.Text
