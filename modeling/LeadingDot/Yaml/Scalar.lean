import LeadingDot.Text.Hex
import LeadingDot.Yaml.MarkedChar

/-!
# Scalars

A scalar is written plainly, between quotes, or as a block. Over several lines, plain and
quoted scalars are folded: one line break stands for a space, and of several ones all but
the first are kept.
-/

namespace LeadingDot.Yaml

open MarkedChar

/-- How a scalar is written. -/
inductive ScalarStyle where
  | plain
  | singleQuoted
  | doubleQuoted
  | literal
  | folded
  deriving DecidableEq, Repr

/-- What a gap between the words of a scalar stands for: its blanks, or, if there are
line breaks in it, these after folding. -/
def foldGap (gap : List Char) : List Char :=
  match gap.filter isBreak with
  | [] => gap
  | ['\n'] => [' ']
  | '\n' :: breaks => breaks
  | breaks => breaks

/-! ## Plain scalars -/

/-- Whether a character delimits the items of a flow collection. -/
def isFlowMark (c : Char) : Bool :=
  c == ',' || c == '[' || c == ']' || c == '\x7b' || c == '\x7d'

/-- Reads a word of a plain scalar, up to a gap or to what ends the scalar; `flow` says
whether it stands in a flow collection. -/
def plainWord (flow : Bool) : List MarkedChar → Except Fault (List Char × List MarkedChar)
  | [] => .ok ([], [])
  | symbol :: rest =>
    let next := peek rest
    if isSpaceOrEnd symbol.char then .ok ([], symbol :: rest)
    else if flow && symbol.char == ':' && (isFlowMark next || next == '?') then
      .error ⟨.unexpectedColon, symbol.mark⟩
    else if (symbol.char == ':' && isSpaceOrEnd next) || (flow && isFlowMark symbol.char) then
      .ok ([], symbol :: rest)
    else
      (plainWord flow rest).map fun (word, rest) => (symbol.char :: word, rest)

/-- The place of a tab that stands before column `indent` of a later line of a gap. -/
def tabBefore? (indent : Int) (gap : List MarkedChar) : Option Mark :=
  ((gap.dropWhile fun symbol => !isBreak symbol.char).find? fun symbol =>
    symbol.char == '\t' && (symbol.mark.column : Int) < indent).map (·.mark)

/-- A plain scalar that was read. -/
structure PlainScalar where
  text : List Char
  /-- Whether line breaks follow that were taken with it. -/
  broken : Bool
  /-- Where the scalar ends. -/
  stop : Mark
  rest : List MarkedChar

/-- Reads a plain scalar. In blocks its later lines start at column `indent` or after it. -/
def plainScalar (flow : Bool) (indent : Int) (text : List MarkedChar) :
    Except Fault PlainScalar := do
  if atDocumentBorder text || peek text == '#' then
    return ⟨[], false, here text, text⟩
  let (word, rest) ← plainWord flow text
  let gap := rest.takeWhile fun symbol => isGap symbol.char
  let after := rest.dropWhile fun symbol => isGap symbol.char
  let done : PlainScalar := ⟨word, gap.any (isBreak ·.char), here rest, after⟩
  if gap.isEmpty then return done
  if let some mark := tabBefore? indent gap then
    throw ⟨.tabInPlain, mark⟩
  if !flow && (column after : Int) < indent then return done
  if after.length < text.length then
    let more ← plainScalar flow indent after
    if more.text.isEmpty then return { done with broken := done.broken || more.broken }
    return { more with text := word ++ foldGap (chars gap) ++ more.text }
  else
    return done
termination_by text.length

/-! ## Quoted scalars -/

/-- The character that a letter stands for after a backslash. -/
def escaped? : Char → Option Char
  | '0' => some '\x00'
  | 'a' => some '\x07'
  | 'b' => some '\x08'
  | 't' => some '\t'
  | '\t' => some '\t'
  | 'n' => some '\n'
  | 'v' => some '\x0b'
  | 'f' => some '\x0c'
  | 'r' => some '\r'
  | 'e' => some '\x1b'
  | ' ' => some ' '
  | '"' => some '"'
  | '/' => some '/'
  | '\\' => some '\\'
  | 'N' => some '\x85'
  | '_' => some '\xa0'
  | 'L' => some '\u2028'
  | 'P' => some '\u2029'
  | _ => none

/-- Number of hexadecimal digits that a letter asks for after a backslash. -/
def escapeWidth? : Char → Option Nat
  | 'x' => some 2
  | 'u' => some 4
  | 'U' => some 8
  | _ => none

/-- The number that hexadecimal digits spell. -/
def hexNumber? (digits : List Char) : Option Nat :=
  (digits.mapM Text.hexValue?).map (·.foldl (fun n digit => n * 16 + digit) 0)

/-- Reads an escape after its backslash; `mark` is the place of the backslash. -/
def escape (start : Mark) (text : List MarkedChar) : Except Fault (Char × List MarkedChar) :=
  let letter := peek text
  let rest := text.drop 1
  match escaped? letter, escapeWidth? letter with
  | some c, _ => .ok (c, rest)
  | none, some width =>
    let digits := chars (rest.take width)
    match hexNumber? digits with
    | some code =>
      if digits.length < width then .error ⟨.hexDigit, start⟩
      else if code.isValidChar then .ok (Char.ofNat code, rest.drop width)
      else .error ⟨.escapedCode, start⟩
    | none => .error ⟨.hexDigit, start⟩
  | none, none => .error ⟨.unknownEscape, start⟩

/-- Reads a word of a quoted scalar, up to a gap or to its closing quote; says whether
it ends with a line break after a backslash. -/
def quotedWord (single : Bool) (text : List MarkedChar) :
    Except Fault (List Char × Bool × List MarkedChar) :=
  match text with
  | [] => .ok ([], false, [])
  | symbol :: rest =>
    let c := symbol.char
    if isSpaceOrEnd c then .ok ([], false, symbol :: rest)
    else if single && c == '\'' && peek rest == '\'' then
      (quotedWord single (rest.drop 1)).map fun (word, tail) => ('\'' :: word, tail)
    else if c == (if single then '\'' else '"') then .ok ([], false, symbol :: rest)
    else if !single && c == '\\' && isBreak (peek rest) then .ok ([], true, rest.drop 1)
    else if !single && c == '\\' then
      match escape symbol.mark rest with
      | .error fault => .error fault
      | .ok (c, after) =>
        if after.length ≤ rest.length then
          (quotedWord single after).map fun (word, tail) => (c :: word, tail)
        else .ok ([c], false, after)
    else (quotedWord single rest).map fun (word, tail) => (c :: word, tail)
termination_by text.length
decreasing_by all_goals simp_wf <;> omega

/-- Reads a quoted scalar after its opening quote. -/
def quotedScalar (single : Bool) (text : List MarkedChar) :
    Except Fault (List Char × List MarkedChar) := do
  if atDocumentBorder text then failAt .documentIndicator text
  else if peek text == endMark then failAt .endOfStream text
  else
    let (word, escapedBreak, rest) ← quotedWord single text
    if !escapedBreak && peek rest == (if single then '\'' else '"') then
      return (word, rest.drop 1)
    let gap := takeWhile isGap rest
    let after := dropWhile isGap rest
    let between := if escapedBreak then gap.filter isBreak else foldGap gap
    if after.length < text.length then
      let (more, tail) ← quotedScalar single after
      return (word ++ between ++ more, tail)
    else
      return (word, rest)
termination_by text.length

/-! ## Block scalars -/

/-- What becomes of the line breaks at the end of a block scalar. -/
inductive Chomping where
  | strip
  | clip
  | keep
  deriving DecidableEq, Repr

/-- The header of a block scalar. -/
structure BlockHeader where
  chomping : Chomping
  /-- How much deeper than its surroundings the block stands, if the header says so. -/
  increment : Option Nat

/-- Reads a chomping indicator. -/
def chompingOf? : Char → Option Chomping
  | '+' => some .keep
  | '-' => some .strip
  | _ => none

/-- Reads an indentation indicator, if there is one. -/
def indentationOf? (text : List MarkedChar) : Except Fault (Option Nat × List MarkedChar) :=
  let c := peek text
  if c == '0' then failAt .zeroIndentation text
  else if c.isDigit then .ok (some (c.toNat - '0'.toNat), text.drop 1)
  else .ok (none, text)

/-- Reads the header of a block scalar up to the end of its line. -/
def blockHeader (text : List MarkedChar) : Except Fault (BlockHeader × List MarkedChar) := do
  let (header, rest) ← (do
    match chompingOf? (peek text) with
    | some chomping =>
      let (increment, rest) ← indentationOf? (text.drop 1)
      return (BlockHeader.mk chomping increment, rest)
    | none =>
      let (increment, rest) ← indentationOf? text
      match increment, chompingOf? (peek rest) with
      | some _, some chomping => return (BlockHeader.mk chomping increment, rest.drop 1)
      | _, _ => return (BlockHeader.mk .clip increment, rest))
  let rest := dropWhile isBlank rest
  let rest := if peek rest == '#' then dropWhile (!isBreakOrEnd ·) rest else rest
  if isBreak (peek rest) then return (header, rest.drop 1)
  else if peek rest == endMark then return (header, rest)
  else failAt .missingLineEnd rest

/-- Blank lines of a block scalar that were read. -/
structure BlankLines where
  breaks : List Char
  /-- The greatest column that the spaces of a line reach. -/
  deepest : Nat
  rest : List MarkedChar

/-- Reads the blank lines before a line of a block scalar, and the spaces before that
line: up to column `indent?`, or all if it is not known. -/
def blankLines (indent? : Option Nat) (text : List MarkedChar) : Except Fault BlankLines :=
  let before (symbol : MarkedChar) : Bool := indent?.all (symbol.mark.column < ·)
  let rest := text.dropWhile fun symbol => symbol.char == ' ' && before symbol
  match rest with
  | [] => .ok ⟨[], 0, []⟩
  | symbol :: after =>
    if symbol.char == '\t' && before symbol then .error ⟨.tabIndentation, symbol.mark⟩
    else if isBreak symbol.char then
      if after.length < text.length then
        (blankLines indent? after).map fun lines =>
          ⟨symbol.char :: lines.breaks, max symbol.mark.column lines.deepest, lines.rest⟩
      else .ok ⟨[], 0, rest⟩
    else .ok ⟨[], symbol.mark.column, rest⟩
termination_by text.length

/-- What stands before a line of a block scalar: the break at the end of the line before
it, and the blank lines between the two. A break between lines that both start without a
blank is folded, if the scalar is. -/
def joinLines (isFolded : Bool) (lineBreak : List Char) (blankBefore blankAfter : Bool)
    (breaks : List Char) : List Char :=
  if isFolded && lineBreak == ['\n'] && !blankBefore && !blankAfter then
    if breaks.isEmpty then [' '] else breaks
  else lineBreak ++ breaks

/-- The end of a block scalar: the break of its last line and the blank lines after it. -/
def chomp (chomping : Chomping) (lineBreak breaks : List Char) : List Char :=
  match chomping with
  | .strip => []
  | .clip => lineBreak
  | .keep => lineBreak ++ breaks

/-- Reads the lines of a block scalar that start at a column. The line before them ended
with `lineBreak` and started with a blank if `blankBefore` says so; `breaks` are those of
the blank lines since then. -/
def blockLines (isFolded : Bool) (chomping : Chomping) (indent : Nat) (lineBreak : List Char)
    (blankBefore : Bool) (breaks : List Char) (text : List MarkedChar) :
    Except Fault (List Char × List MarkedChar) := do
  if column text == indent && peek text != endMark then
    let blankAfter := isBlank (peek text)
    let joint := joinLines isFolded lineBreak blankBefore blankAfter breaks
    let line := takeWhile (!isBreakOrEnd ·) text
    let rest := dropWhile (!isBreakOrEnd ·) text
    let lineBreak := if isBreak (peek rest) then [peek rest] else []
    let lines ← blankLines (some indent) (rest.drop lineBreak.length)
    if lines.rest.length < text.length then
      let (more, tail) ←
        blockLines isFolded chomping indent lineBreak blankAfter lines.breaks lines.rest
      return (joint ++ line ++ more, tail)
    else
      return (joint ++ line, lines.rest)
  else
    return (chomp chomping lineBreak breaks, text)
termination_by text.length

/-- Reads a block scalar after its indicator; `indent` is the column of the block that it
stands in, or less than zero outside of blocks. -/
def blockScalar (isFolded : Bool) (indent : Int) (text : List MarkedChar) :
    Except Fault (List Char × List MarkedChar) := do
  let (header, rest) ← blockHeader text
  match header.increment with
  | some increment =>
    let column := (max indent 0).toNat + increment
    let lines ← blankLines (some column) rest
    blockLines isFolded header.chomping column [] false lines.breaks lines.rest
  | none =>
    let lines ← blankLines none rest
    let column := max lines.deepest (max (indent + 1) 1).toNat
    blockLines isFolded header.chomping column [] false lines.breaks lines.rest

end LeadingDot.Yaml
