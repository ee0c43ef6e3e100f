import LeadingDot.Number.Decimal

/-!
# JSON numbers

A number is an integer if it was written as one and fits into 64 bits, with or without a
sign; every other number is a floating point number.
-/

namespace LeadingDot.Json

/-- A JSON number. -/
inductive Number where
  | integer (value : Int)
  | real (value : Binary64)
  deriving DecidableEq, Repr

end LeadingDot.Json
