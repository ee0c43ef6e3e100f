import LeadingDot.Text.Hex
import LeadingDot.Text.PrintTable

/-!
# Quoted text

A text between double quotes in which every character can be seen: the quote, the
backslash and the common controls have short escapes, and a character without a
glyph of its own is written by its code point.
-/

namespace LeadingDot.Text

/-- A character by its code point, `\u` and the digits in braces. -/
def codePointEscape (c : Char) : List Char :=
  ['\\', 'u', '\x7b'] ++ hexDigits c.toNat ++ ['\x7d']

/-- A character as it stands between quotes. -/
def quotedChar (c : Char) : List Char :=
  if c = '\x00' then ['\\', '0']
  else if c = '\t' then ['\\', 't']
  else if c = '\r' then ['\\', 'r']
  else if c = '\n' then ['\\', 'n']
  else if c = '"' ∨ c = '\\' then ['\\', c]
  else if graphemeExtending.has c || unprintable.has c then codePointEscape c
  else [c]

/-- A text between double quotes. -/
def quoted (s : String) : String :=
  String.ofList ('"' :: s.toList.flatMap quotedChar ++ ['"'])

end LeadingDot.Text
