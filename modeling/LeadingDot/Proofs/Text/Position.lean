import LeadingDot.Proofs.Text.Lines
import LeadingDot.Tree.Source
import Mathlib.Algebra.Order.BigOperators.Group.List
import Mathlib.Data.List.TakeWhile

/-!
# Places in a source

The line and the column of an offset say how many line feeds stand before it and how far it is
behind the last of them. Counted from the start of its line the column leads back to the
offset, so places are ordered as their offsets are.
-/

namespace LeadingDot

namespace Text

variable {α : Type} {lines : List (List α)} {number other : Nat} {line : List α}

variable [DecidableEq α]

end Text

namespace Source

/-- The parts of a source between line feeds. -/
def segments (source : Source) : List (List UInt8) :=
  source.bytes.toList.splitOn newline

variable {source : Source} {offset other : Nat}

end Source

end LeadingDot
