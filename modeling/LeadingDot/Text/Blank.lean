import LeadingDot.Text.CodePoints

/-!
# Blank characters

A blank is a character with the property White_Space. Trimming and the blanks of
a directive comment use this one class; it is wider than the four ASCII blanks.
-/

namespace LeadingDot.Text

/-- The code points with the property White_Space. -/
def blanks : CodePoints :=
  [(0x9, 0xD), (0x20, 0x20), (0x85, 0x85), (0xA0, 0xA0), (0x1680, 0x1680), (0x2000, 0x200A),
   (0x2028, 0x2029), (0x202F, 0x202F), (0x205F, 0x205F), (0x3000, 0x3000)]

/-- Whether a character is blank. -/
def isBlank (c : Char) : Bool :=
  blanks.has c

/-- Drops the blanks a text starts with. -/
def trimStart (cs : List Char) : List Char :=
  cs.dropWhile isBlank

/-- Drops the blanks a text ends with. -/
def trimEnd (cs : List Char) : List Char :=
  (cs.reverse.dropWhile isBlank).reverse

/-- Drops the blanks at both ends of a text. -/
def trim (cs : List Char) : List Char :=
  trimEnd (trimStart cs)

/-- Whether a text has no character but blanks. -/
def allBlank (cs : List Char) : Bool :=
  cs.all isBlank

end LeadingDot.Text
