import LeadingDot.Yaml.Token

/-!
# Token streams

The tokens of a text are found in one pass. Outside of flow collections the column of a
token tells the blocks that start and end before it. A key is written before the colon
that shows it to be one, so each place where a key may start is remembered until it is
too late: a key stands on one line and is at most 1024 characters long.
-/

namespace LeadingDot.Yaml

open MarkedChar

/-- A place where a key may have started. -/
structure PossibleKey where
  /-- Whether nothing else may stand there. -/
  required : Bool
  /-- Number of tokens before it. -/
  tokensBefore : Nat
  mark : Mark

/-- What is known of the tokens so far. -/
structure Scanner where
  /-- The tokens, the last one first. -/
  tokens : List Token
  /-- The column of the innermost block, less than zero outside of blocks. -/
  indent : Int
  /-- The columns of the blocks around it, the innermost first. -/
  outerIndents : List Int
  /-- Where a key may have started in the innermost flow collection, or in the blocks. -/
  key? : Option PossibleKey
  /-- Where keys may have started around the innermost flow collection. -/
  outerKeys : List (Option PossibleKey)
  /-- Whether a key may start with the next token. -/
  keyAllowed : Bool

namespace Scanner

/-- The scanner at the start of a text. -/
def initial : Scanner := ⟨[], -1, [], none, [], true⟩

/-- Whether the next token stands in a flow collection. -/
def inFlow (scanner : Scanner) : Bool := !scanner.outerKeys.isEmpty

/-- Adds a token. -/
def push (scanner : Scanner) (token : Token) : Scanner :=
  { scanner with tokens := token :: scanner.tokens }

/-- Adds a token after the first `place` tokens. -/
def insert (scanner : Scanner) (place : Nat) (token : Token) : Scanner :=
  let later := scanner.tokens.length - place
  { scanner with
    tokens := scanner.tokens.take later ++ token :: scanner.tokens.drop later }

/-- Adds a token that is `width` characters wide. -/
def pushIndicator (scanner : Scanner) (kind : TokenKind) (width : Nat) (text : List MarkedChar) :
    Scanner × List MarkedChar :=
  let rest := text.drop width
  (scanner.push ⟨kind, here text, here rest⟩, rest)

/-- Ends the blocks that stand deeper than a column. -/
def unrollTo (scanner : Scanner) (column : Int) (mark : Mark) : Scanner :=
  if scanner.inFlow then scanner
  else
    let ended := (scanner.indent :: scanner.outerIndents).takeWhile (column < ·)
    let left := (scanner.indent :: scanner.outerIndents).dropWhile (column < ·)
    { scanner with
      tokens := ended.map (fun _ => .empty .blockEnd mark) ++ scanner.tokens
      indent := left.headD (-1)
      outerIndents := left.tail }

/-- Starts a block if a column is deeper than the blocks so far; its token goes after the
first `place` tokens. -/
def rollTo (scanner : Scanner) (kind : TokenKind) (place : Nat) (mark : Mark) : Scanner :=
  if scanner.inFlow || (mark.column : Int) ≤ scanner.indent then scanner
  else
    { scanner.insert place (.empty kind mark) with
      indent := mark.column
      outerIndents := scanner.indent :: scanner.outerIndents }

/-- Gives up a key that was possible, unless it was required. -/
def giveUp (mark : Mark) : Option PossibleKey → Except Fault (Option PossibleKey)
  | none => .ok none
  | some key => if key.required then .error ⟨.missingColon, mark⟩ else .ok none

/-- Gives up the key of the innermost collection. -/
def dropKey (scanner : Scanner) (mark : Mark) : Except Fault Scanner :=
  (giveUp mark scanner.key?).map fun key => { scanner with key? := key }

/-- Whether a place is too far from where a key may have started. -/
def PossibleKey.isStale (key : PossibleKey) (mark : Mark) : Bool :=
  key.mark.line < mark.line || key.mark.index + 1024 < mark.index

/-- Gives up a key that is too far away. -/
def giveUpStale (mark : Mark) (key : Option PossibleKey) : Except Fault (Option PossibleKey) :=
  if key.any (PossibleKey.isStale · mark) then giveUp mark key else .ok key

/-- Gives up all keys that are too far away. -/
def dropStaleKeys (scanner : Scanner) (mark : Mark) : Except Fault Scanner := do
  let outerKeys ← scanner.outerKeys.mapM (giveUpStale mark)
  let key ← giveUpStale mark scanner.key?
  return { scanner with key? := key, outerKeys }

/-- Remembers that a key may start with the next token. -/
def saveKey (scanner : Scanner) (mark : Mark) : Except Fault Scanner :=
  if scanner.keyAllowed then
    (scanner.dropKey mark).map fun scanner =>
      { scanner with
        key? := some
          { required := !scanner.inFlow && scanner.indent == mark.column
            tokensBefore := scanner.tokens.length
            mark } }
  else .ok scanner

/-- Says whether a key may start with the next token. -/
def allowKey (scanner : Scanner) (allowed : Bool) : Scanner :=
  { scanner with keyAllowed := allowed }

/-- Goes into a flow collection. -/
def enterFlow (scanner : Scanner) : Scanner :=
  { scanner with key? := none, outerKeys := scanner.key? :: scanner.outerKeys }

/-- Comes out of a flow collection. -/
def leaveFlow (scanner : Scanner) : Scanner :=
  match scanner.outerKeys with
  | [] => scanner
  | key :: outerKeys => { scanner with key? := key, outerKeys }

/-- What is left of a line after its blanks and its comment. A byte order mark may stand at
its start. Tabs are blanks only where no block can start. -/
def skipLine (scanner : Scanner) (text : List MarkedChar) : List MarkedChar :=
  let tabs := scanner.inFlow || !scanner.keyAllowed
  let rest := dropWhile (fun c => c == ' ' || (tabs && c == '\t')) (dropByteOrderMark text)
  if peek rest == '#' then dropWhile (!isBreakOrEnd ·) rest else rest

/-- Passes over blanks, comments and line breaks. -/
def skipGap (scanner : Scanner) (text : List MarkedChar) : Scanner × List MarkedChar :=
  let rest := scanner.skipLine text
  if isBreak (peek rest) then
    if (rest.drop 1).length < text.length then
      skipGap (if scanner.inFlow then scanner else scanner.allowKey true) (rest.drop 1)
    else (scanner, rest)
  else (scanner, rest)
termination_by text.length
decreasing_by assumption

/-- What a token makes of the scanner and the text from it on. -/
abbrev Step := Except Fault (Scanner × List MarkedChar)

/-- Reads a directive. -/
def readDirective (scanner : Scanner) (text : List MarkedChar) : Step := do
  let scanner ← (scanner.unrollTo (-1) (here text)).dropKey (here text)
  let (found, rest) ← directive (text.drop 1)
  return ((scanner.allowKey false).push ⟨.directive found, here text, here rest⟩, rest)

/-- Reads the start or the end of a document. -/
def readDocumentMark (scanner : Scanner) (kind : TokenKind) (text : List MarkedChar) : Step := do
  let scanner ← (scanner.unrollTo (-1) (here text)).dropKey (here text)
  return (scanner.allowKey false).pushIndicator kind 3 text

/-- Reads the start of a flow collection. -/
def readFlowStart (scanner : Scanner) (kind : TokenKind) (text : List MarkedChar) : Step := do
  let scanner ← scanner.saveKey (here text)
  return (scanner.enterFlow.allowKey true).pushIndicator kind 1 text

/-- Reads the end of a flow collection. -/
def readFlowEnd (scanner : Scanner) (kind : TokenKind) (text : List MarkedChar) : Step := do
  let scanner ← scanner.dropKey (here text)
  return (scanner.leaveFlow.allowKey false).pushIndicator kind 1 text

/-- Reads a comma between the items of a flow collection. -/
def readFlowEntry (scanner : Scanner) (text : List MarkedChar) : Step := do
  let scanner ← scanner.dropKey (here text)
  return (scanner.allowKey true).pushIndicator .flowEntry 1 text

/-- Starts a block with an indicator that is not in a flow collection. -/
def startBlock (scanner : Scanner) (kind : TokenKind) (cause : Cause) (mark : Mark) :
    Except Fault Scanner :=
  if scanner.inFlow then .ok scanner
  else if scanner.keyAllowed then .ok (scanner.rollTo kind scanner.tokens.length mark)
  else .error ⟨cause, mark⟩

/-- Reads the dash before an item of a block sequence. -/
def readBlockEntry (scanner : Scanner) (text : List MarkedChar) : Step := do
  let scanner ← scanner.startBlock .blockSequenceStart .entryNotAllowed (here text)
  let scanner ← scanner.dropKey (here text)
  return (scanner.allowKey true).pushIndicator .blockEntry 1 text

/-- Reads the question mark before a key. -/
def readKey (scanner : Scanner) (text : List MarkedChar) : Step := do
  let scanner ← scanner.startBlock .blockMappingStart .keyNotAllowed (here text)
  let scanner ← scanner.dropKey (here text)
  return (scanner.allowKey !scanner.inFlow).pushIndicator .key 1 text

/-- Reads the colon before a value. If a key may have started before it, one did. -/
def readValue (scanner : Scanner) (text : List MarkedChar) : Step :=
  match scanner.key? with
  | some key =>
    let scanner := scanner.insert key.tokensBefore (.empty .key key.mark)
    let scanner := scanner.rollTo .blockMappingStart key.tokensBefore key.mark
    .ok ((({ scanner with key? := none }).allowKey false).pushIndicator .value 1 text)
  | none => do
    let scanner ← scanner.startBlock .blockMappingStart .valueNotAllowed (here text)
    return (scanner.allowKey !scanner.inFlow).pushIndicator .value 1 text

/-- Whether a character may follow the name of an anchor. -/
def endsAnchor (c : Char) : Bool :=
  isSpaceOrEnd c || ['?', ':', ',', ']', '\x7d', '%', '@', '\x60'].contains c

/-- Reads the name of an anchor, or a reference to one. -/
def readAnchor (scanner : Scanner) (kind : String → TokenKind) (text : List MarkedChar) : Step := do
  let scanner ← scanner.saveKey (here text)
  let name := takeWhile isNameChar (text.drop 1)
  let rest := dropWhile isNameChar (text.drop 1)
  if name.isEmpty || !endsAnchor (peek rest) then failAt .anchorName rest
  else
    return ((scanner.allowKey false).push ⟨kind (String.ofList name), here text, here rest⟩, rest)

/-- Reads a tag. -/
def readTag (scanner : Scanner) (text : List MarkedChar) : Step := do
  let scanner ← scanner.saveKey (here text)
  let (found, rest) ← tag scanner.inFlow text
  return ((scanner.allowKey false).push ⟨.tag found, here text, here rest⟩, rest)

/-- Adds a scalar. -/
def pushScalar (scanner : Scanner) (style : ScalarStyle) (scalar : List Char) (start stop : Mark) :
    Scanner :=
  scanner.push ⟨.scalar style (String.ofList scalar), start, stop⟩

/-- Reads a block scalar. -/
def readBlockScalar (scanner : Scanner) (isFolded : Bool) (text : List MarkedChar) : Step := do
  let scanner ← scanner.dropKey (here text)
  let (scalar, rest) ← blockScalar isFolded scanner.indent (text.drop 1)
  let style := if isFolded then ScalarStyle.folded else .literal
  return ((scanner.allowKey true).pushScalar style scalar (here text) (here rest), rest)

/-- Reads a quoted scalar. -/
def readQuotedScalar (scanner : Scanner) (single : Bool) (text : List MarkedChar) : Step := do
  let scanner ← scanner.saveKey (here text)
  let (scalar, rest) ← quotedScalar single (text.drop 1)
  let style := if single then ScalarStyle.singleQuoted else .doubleQuoted
  return ((scanner.allowKey false).pushScalar style scalar (here text) (here rest), rest)

/-- Reads a plain scalar. A key may start after the line breaks that were taken with it. -/
def readPlainScalar (scanner : Scanner) (text : List MarkedChar) : Step := do
  let scanner ← scanner.saveKey (here text)
  let scalar ← plainScalar scanner.inFlow (scanner.indent + 1) text
  let scanner := scanner.allowKey scalar.broken
  return (scanner.pushScalar .plain scalar.text (here text) scalar.stop, scalar.rest)

/-- The characters that a plain scalar does not start with; some of them it may start
with before certain others. -/
def indicators : List Char :=
  ['-', '?', ':', ',', '[', ']', '\x7b', '\x7d', '#', '&', '*', '!', '|', '>', '\'', '"', '%', '@',
    '\x60']

/-- Whether a plain scalar starts with a character before another one. -/
def startsPlain (flow : Bool) (c next : Char) : Bool :=
  !(isSpaceOrEnd c || indicators.contains c) || (c == '-' && !isBlank next) ||
    (!flow && (c == '?' || c == ':') && !isSpaceOrEnd next)

/-- Reads the token that the text starts with. -/
def readToken (scanner : Scanner) (text : List MarkedChar) : Step :=
  let c := peek text
  let next := peek (text.drop 1)
  let flow := scanner.inFlow
  if column text == 0 && c == '%' then scanner.readDirective text
  else if atDocumentMark '-' text then scanner.readDocumentMark .documentStart text
  else if atDocumentMark '.' text then scanner.readDocumentMark .documentEnd text
  else if c == '[' then scanner.readFlowStart .flowSequenceStart text
  else if c == '\x7b' then scanner.readFlowStart .flowMappingStart text
  else if c == ']' then scanner.readFlowEnd .flowSequenceEnd text
  else if c == '\x7d' then scanner.readFlowEnd .flowMappingEnd text
  else if c == ',' then scanner.readFlowEntry text
  else if c == '-' && isSpaceOrEnd next then scanner.readBlockEntry text
  else if c == '?' && (flow || isSpaceOrEnd next) then scanner.readKey text
  else if c == ':' && (flow || isSpaceOrEnd next) then scanner.readValue text
  else if c == '*' then scanner.readAnchor .reference text
  else if c == '&' then scanner.readAnchor .anchor text
  else if c == '!' then scanner.readTag text
  else if c == '|' && !flow then scanner.readBlockScalar false text
  else if c == '>' && !flow then scanner.readBlockScalar true text
  else if c == '\'' then scanner.readQuotedScalar true text
  else if c == '"' then scanner.readQuotedScalar false text
  else if startsPlain flow c next then scanner.readPlainScalar text
  else failAt .unexpectedCharacter text

/-- Ends the stream of tokens, at the start of a line of its own. -/
def finish (scanner : Scanner) (mark : Mark) : Except Fault (List Token) := do
  let mark := if mark.column = 0 then mark else mark.nextLine 0
  let scanner ← (scanner.unrollTo (-1) mark).dropKey mark
  return (scanner.push (.empty .streamEnd mark)).tokens.reverse

/-- Reads the tokens of a text. -/
def readTokens (scanner : Scanner) (text : List MarkedChar) : Except Fault (List Token) := do
  let (scanner, rest) := scanner.skipGap text
  let scanner ← scanner.dropStaleKeys (here rest)
  let scanner := scanner.unrollTo (column rest) (here rest)
  if peek rest == endMark then scanner.finish (here rest)
  else
    let (scanner, after) ← scanner.readToken rest
    if after.length < text.length then readTokens scanner after
    else scanner.finish (here after)
termination_by text.length

end Scanner

/-- The tokens of a text. -/
def tokens (text : List Char) : Except Fault (List Token) := do
  Scanner.initial.readTokens (← symbols text)

end LeadingDot.Yaml
