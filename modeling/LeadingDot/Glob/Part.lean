import LeadingDot.Text.Quoted

/-!
# Glob patterns

A glob pattern is a sequence of parts that match bytes of a path one after the other. A
star matches across directories; a double star that is a component of its own matches
whole directories.
-/

namespace LeadingDot.Glob

/-- A part of a glob pattern. -/
inductive Part where
  /-- The bytes of a character. -/
  | literal (c : Char)
  /-- Any byte. -/
  | anyByte
  /-- Any bytes, slashes among them. -/
  | anyText
  /-- No directories or some, before what follows. -/
  | leadingDirectories
  /-- A slash and whatever lies below. -/
  | beneath
  /-- A slash, or directories between two slashes. -/
  | innerDirectories
  /-- A byte of one of the ranges, or of none of them. -/
  | oneOf (negated : Bool) (ranges : List (Char × Char))
  /-- One of several sequences, none of which matches the empty text alone; if there are
  none, the empty text. -/
  | alternatives (branches : List (List Part))
  deriving Repr

/-- Whether a part is a group without branches. -/
def Part.isEmptyGroup : Part → Bool
  | .alternatives [] => true
  | _ => false

/-- Why a text is no glob pattern. -/
inductive Fault where
  | unclosedClass
  | invalidRange (low high : Char)
  | danglingEscape
  | unclosedAlternatives
  | unopenedAlternatives
  deriving DecidableEq, Repr

/-- What is said of a fault. -/
def Fault.message : Fault → String
  | unclosedClass => "unclosed character class; missing ']'"
  | invalidRange low high =>
    "invalid range; '" ++ low.toString ++ "' > '" ++ high.toString ++ "'"
  | danglingEscape => "dangling '\\'"
  | unclosedAlternatives =>
    "unclosed alternate group; missing '\x7d' (maybe escape '\x7b' with '[\x7b]'?)"
  | unopenedAlternatives =>
    "unopened alternate group; missing '\x7b' (maybe escape '\x7d' with '[\x7d]'?)"

end LeadingDot.Glob
