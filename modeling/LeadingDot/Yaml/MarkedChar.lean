import LeadingDot.Yaml.Fault

/-!
# Marked characters

The characters of a YAML text, each with the place where it stands. Line breaks of all
kinds but the two separators of Unicode are written as line feeds, and a final NUL marks
the end of the text; no other character of a text is NUL.
-/

namespace LeadingDot.Yaml

/-- A character and the place where it stands. -/
structure MarkedChar where
  char : Char
  mark : Mark
  deriving DecidableEq, Repr

/-- The character that marks the end of a text. -/
def endMark : Char := '\x00'

/-- Whether a character is a space or a tab. -/
def isBlank (c : Char) : Bool := c == ' ' || c == '\t'

/-- Whether a character of a marked text is a line break. -/
def isBreak (c : Char) : Bool := c == '\n' || c == '\u2028' || c == '\u2029'

/-- Whether a character is a line break or marks the end. -/
def isBreakOrEnd (c : Char) : Bool := isBreak c || c == endMark

/-- Whether a character is blank, a line break, or marks the end. -/
def isSpaceOrEnd (c : Char) : Bool := isBlank c || isBreakOrEnd c

/-- Whether a character is blank or a line break. -/
def isGap (c : Char) : Bool := isBlank c || isBreak c

/-- Whether a character may stand in a name: a letter, a digit, `_` or `-`. -/
def isNameChar (c : Char) : Bool := c.isAlphanum || c == '_' || c == '-'

/-- Whether a character may stand in a text. -/
def isAllowed (c : Char) : Bool :=
  c == '\t' || c == '\n' || c == '\r' || (' ' ≤ c && c ≤ '~') || c == '\x85' ||
    ('\xa0' ≤ c && c ≤ '\ufffd') || '\uffff' < c

/-- Marks the characters of a text from a place on. -/
def mark (place : Mark) : List Char → List MarkedChar
  | [] => [⟨endMark, place⟩]
  | '\r' :: '\n' :: rest => ⟨'\n', place⟩ :: mark (place.nextLine 2) rest
  | c :: rest =>
    if c = '\r' ∨ c = '\x85' ∨ c = '\n' then ⟨'\n', place⟩ :: mark (place.nextLine 1) rest
    else if isBreak c then ⟨c, place⟩ :: mark (place.nextLine 1) rest
    else ⟨c, place⟩ :: mark place.next rest

/-- The marked characters of a text. -/
def symbols (text : List Char) : Except Fault (List MarkedChar) :=
  match (mark .start text).find? fun symbol => !isAllowed symbol.char && symbol.char != endMark with
  | some symbol => .error ⟨.controlCharacter, symbol.mark⟩
  | none =>
    if text.contains endMark then .error ⟨.controlCharacter, .start⟩ else .ok (mark .start text)

namespace MarkedChar

/-- The character that comes next. -/
def peek : List MarkedChar → Char
  | [] => endMark
  | symbol :: _ => symbol.char

/-- The place of what comes next. -/
def here : List MarkedChar → Mark
  | [] => .start
  | symbol :: _ => symbol.mark

/-- The column of what comes next. -/
def column (text : List MarkedChar) : Nat := (here text).column

/-- The characters of marked characters. -/
def chars (text : List MarkedChar) : List Char := text.map (·.char)

/-- Whether a line starts here with three dashes or three dots on their own. -/
def atDocumentMark (indicator : Char) : List MarkedChar → Bool
  | a :: b :: c :: rest =>
    a.mark.column == 0 && a.char == indicator && b.char == indicator && c.char == indicator &&
      isSpaceOrEnd (peek rest)
  | _ => false

/-- What is left of a text after a byte order mark at the start of a line. -/
def dropByteOrderMark (text : List MarkedChar) : List MarkedChar :=
  if column text == 0 && peek text == '\ufeff' then text.drop 1 else text

/-- Whether a document ends or starts here. -/
def atDocumentBorder (text : List MarkedChar) : Bool :=
  atDocumentMark '-' text || atDocumentMark '.' text

/-- Drops the characters that satisfy `p`. -/
def dropWhile (p : Char → Bool) (text : List MarkedChar) : List MarkedChar :=
  List.dropWhile (fun symbol => p symbol.char) text

/-- The characters that satisfy `p`, up to the first one that does not. -/
def takeWhile (p : Char → Bool) (text : List MarkedChar) : List Char :=
  chars (List.takeWhile (fun symbol => p symbol.char) text)

end MarkedChar

/-- The failure with a cause at a place in a text. -/
def failAt {α : Type} (cause : Cause) (text : List MarkedChar) : Except Fault α :=
  .error ⟨cause, MarkedChar.here text⟩

end LeadingDot.Yaml
