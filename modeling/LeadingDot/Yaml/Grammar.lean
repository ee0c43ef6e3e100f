import LeadingDot.Yaml.Node
import LeadingDot.Yaml.TokenStream

/-!
# Grammar

The tree that a stream of tokens stands for. Each rule reads a tree off the start of a
list of tokens and leaves the tokens after it, always fewer than there were. Where a rule
wants a node and its collection goes on or ends instead, the node is absent: it counts as
an empty plain scalar.
-/

namespace LeadingDot.Yaml

/-- What tag handles stand for: the octets that their tags start with. -/
abbrev Handles := List (String × List UInt8)

/-- What the handles stand for that no directive declares. -/
def defaultHandles : Handles := [("!", octetsOf ['!']), ("!!", (Tag.core "").octets)]

/-- The tag that a written tag stands for. -/
def Handles.resolve (handles : Handles) (tag : WrittenTag) (mark : Mark) : Except Fault Tag :=
  if tag.handle.isEmpty then .ok ⟨tag.suffix⟩
  else
    match (handles ++ defaultHandles).find? (·.1 == tag.handle) with
    | some (_, stem) => .ok ⟨stem ++ tag.suffix⟩
    | none => .error ⟨.undefinedHandle, mark⟩

/-- Something read off the start of a list of tokens, with the tokens after it. -/
abbrev Reading (α : Type) (tokens : List Token) : Type :=
  { found : α × List Token // found.2.length < tokens.length }

/-- The same, of something that may be nothing. -/
abbrev MaybeReading (α : Type) (tokens : List Token) : Type :=
  { found : α × List Token // found.2.length ≤ tokens.length }

/-- What comes next. -/
def nextKind (tokens : List Token) : TokenKind :=
  (tokens.head?.map (·.kind)).getD .streamEnd

/-- Where what comes next starts. -/
def nextStart (tokens : List Token) : Mark :=
  (tokens.head?.map (·.start)).getD .start

/-- The failure with a cause at what comes next. -/
def failNext {α : Type} (cause : Cause) (tokens : List Token) : Except Fault α :=
  .error ⟨cause, nextStart tokens⟩

/-- Reads the anchor of a node, if it has one. -/
def readAnchor (tokens : List Token) : MaybeReading (Option String) tokens :=
  match tokens with
  | ⟨.anchor name, _, _⟩ :: rest => ⟨(some name, rest), by simp⟩
  | rest => ⟨(none, rest), by simp⟩

/-- Reads the tag of a node, if it has one. -/
def readTag (handles : Handles) (tokens : List Token) :
    Except Fault (MaybeReading (Option Tag) tokens) :=
  match tokens with
  | ⟨.tag tag, start, _⟩ :: rest =>
    (handles.resolve tag start).map fun tag => ⟨(some tag, rest), by simp⟩
  | rest => .ok ⟨(none, rest), by simp⟩

/-- Reads the anchor and the tag of a node, in either order. -/
def readProperties (handles : Handles) (tokens : List Token) :
    Except Fault (MaybeReading Properties tokens) := do
  let ⟨(anchor, afterAnchor), h₁⟩ := readAnchor tokens
  let ⟨(tag, afterTag), h₂⟩ ← readTag handles afterAnchor
  match anchor with
  | some _ => return ⟨(⟨nextStart tokens, anchor, tag⟩, afterTag), Nat.le_trans h₂ h₁⟩
  | none =>
    let ⟨(anchor, rest), h₃⟩ := readAnchor afterTag
    return ⟨(⟨nextStart tokens, anchor, tag⟩, rest), Nat.le_trans h₃ (Nat.le_trans h₂ h₁)⟩

namespace TokenKind

/-- Whether an item of a block sequence is absent before a token. -/
def endsBlockItem (kind : TokenKind) : Bool :=
  kind == .blockEntry || kind == .blockEnd

/-- Whether a key or value of a block mapping is absent before a token. -/
def endsBlockEntry (kind : TokenKind) : Bool :=
  kind == .key || kind == .value || kind == .blockEnd

/-- Whether a key or value in a flow sequence is absent before a token. -/
def endsFlowItem (kind : TokenKind) : Bool :=
  kind == .flowEntry || kind == .flowSequenceEnd

/-- Whether a key or value of a flow mapping is absent before a token. -/
def endsFlowEntry (kind : TokenKind) : Bool :=
  kind == .flowEntry || kind == .flowMappingEnd

end TokenKind

mutual

/-- Reads a node. Where `indentless` says so, a block sequence may stand at the column of
the mapping that holds it. -/
def readNode (handles : Handles) (block indentless : Bool) (tokens : List Token) :
    Except Fault (Reading Node tokens) :=
  match tokens with
  | ⟨.reference name, start, _⟩ :: rest => .ok ⟨(.reference start name, rest), by simp⟩
  | tokens =>
    match readProperties handles tokens with
    | .error fault => .error fault
    | .ok ⟨(properties, rest), h⟩ =>
      match readContent handles block indentless properties rest with
      | .error fault => .error fault
      | .ok ⟨(some node, after), h'⟩ => .ok ⟨(node, after), by grind⟩
      | .ok ⟨(none, _), _⟩ =>
        if h' : rest.length < tokens.length then
          .ok ⟨(.scalar properties .plain "", rest), h'⟩
        else failNext .missingNode rest
termination_by 5 * tokens.length + 1
decreasing_by all_goals grind

/-- Reads a node after its properties, if anything of it is written. -/
def readContent (handles : Handles) (block indentless : Bool) (properties : Properties)
    (tokens : List Token) :
    Except Fault { found : Option Node × List Token //
      found.1.isSome → found.2.length < tokens.length } :=
  match tokens with
  | [] => .ok ⟨(none, []), by simp⟩
  | token :: rest =>
    match token.kind with
    | .scalar style text => .ok ⟨(some (.scalar properties style text), rest), by simp⟩
    | .flowSequenceStart =>
      match readFlowItems handles true rest with
      | .error fault => .error fault
      | .ok ⟨(items, after), h⟩ =>
        .ok ⟨(some (.sequence properties items), after), by grind⟩
    | .flowMappingStart =>
      match readFlowEntries handles true rest with
      | .error fault => .error fault
      | .ok ⟨(entries, after), h⟩ =>
        .ok ⟨(some (.mapping properties entries), after), by grind⟩
    | .blockSequenceStart =>
      if block then
        match readBlockItems handles rest with
        | .error fault => .error fault
        | .ok ⟨(items, after), h⟩ =>
          .ok ⟨(some (.sequence properties items), after), by grind⟩
      else .ok ⟨(none, token :: rest), by simp⟩
    | .blockMappingStart =>
      if block then
        match readBlockEntries handles rest with
        | .error fault => .error fault
        | .ok ⟨(entries, after), h⟩ =>
          .ok ⟨(some (.mapping properties entries), after), by grind⟩
      else .ok ⟨(none, token :: rest), by simp⟩
    | .blockEntry =>
      if indentless then
        match readIndentlessItems handles token.stop rest with
        | .error fault => .error fault
        | .ok ⟨(items, after), h⟩ =>
          .ok ⟨(some (.sequence properties items), after), by grind⟩
      else .ok ⟨(none, token :: rest), by simp⟩
    | _ => .ok ⟨(none, token :: rest), by simp⟩
termination_by 5 * tokens.length + 0
decreasing_by all_goals grind

/-- Reads a node, unless it is absent before what comes next. -/
def readOptional (handles : Handles) (block indentless : Bool) (ends : TokenKind → Bool)
    (mark : Mark) (tokens : List Token) : Except Fault (MaybeReading Node tokens) :=
  if ends (nextKind tokens) then .ok ⟨(.absent mark, tokens), by simp⟩
  else
    match readNode handles block indentless tokens with
    | .error fault => .error fault
    | .ok ⟨found, h⟩ => .ok ⟨found, Nat.le_of_lt h⟩
termination_by 5 * tokens.length + 2
decreasing_by all_goals grind

/-- Reads the items of a block sequence. -/
def readBlockItems (handles : Handles) (tokens : List Token) :
    Except Fault (Reading (List Node) tokens) :=
  match tokens with
  | [] => failNext .missingEntry []
  | token :: rest =>
    match token.kind with
    | .blockEntry =>
      match readOptional handles true false TokenKind.endsBlockItem token.stop rest with
      | .error fault => .error fault
      | .ok ⟨(item, rest), h⟩ =>
        match readBlockItems handles rest with
        | .error fault => .error fault
        | .ok ⟨(items, after), h'⟩ => .ok ⟨(item :: items, after), by grind⟩
    | .blockEnd => .ok ⟨([], rest), by simp⟩
    | _ => failNext .missingEntry (token :: rest)
termination_by 5 * tokens.length + 0
decreasing_by all_goals grind

/-- Reads the items of a block sequence that stands at the column of its mapping, after
the dash of its first item, which ends at `mark`. -/
def readIndentlessItems (handles : Handles) (mark : Mark) (tokens : List Token) :
    Except Fault (MaybeReading (List Node) tokens) :=
  match readOptional handles true false
      (fun kind => kind.endsBlockItem || kind.endsBlockEntry) mark tokens with
  | .error fault => .error fault
  | .ok ⟨(item, []), _⟩ => .ok ⟨([item], []), by simp⟩
  | .ok ⟨(item, token :: rest), h⟩ =>
    if token.kind = .blockEntry then
      match readIndentlessItems handles token.stop rest with
      | .error fault => .error fault
      | .ok ⟨(items, after), h'⟩ => .ok ⟨(item :: items, after), by grind⟩
    else .ok ⟨([item], token :: rest), h⟩
termination_by 5 * tokens.length + 3
decreasing_by all_goals grind

/-- Reads the entries of a block mapping. -/
def readBlockEntries (handles : Handles) (tokens : List Token) :
    Except Fault (Reading (List (Node × Node)) tokens) :=
  match tokens with
  | [] => failNext .missingKey []
  | token :: rest =>
    match token.kind with
    | .key =>
      match readOptional handles true true TokenKind.endsBlockEntry token.stop rest with
      | .error fault => .error fault
      | .ok ⟨(key, rest), h⟩ =>
        match readBlockValue handles rest with
        | .error fault => .error fault
        | .ok ⟨(value, rest), h'⟩ =>
          match readBlockEntries handles rest with
          | .error fault => .error fault
          | .ok ⟨(entries, after), h''⟩ =>
            .ok ⟨((key, value) :: entries, after), by grind⟩
    | .blockEnd => .ok ⟨([], rest), by simp⟩
    | _ => failNext .missingKey (token :: rest)
termination_by 5 * tokens.length + 0
decreasing_by all_goals grind

/-- Reads the value of an entry of a block mapping. -/
def readBlockValue (handles : Handles) (tokens : List Token) :
    Except Fault (MaybeReading Node tokens) :=
  match tokens with
  | ⟨.value, _, stop⟩ :: rest =>
    match readOptional handles true true TokenKind.endsBlockEntry stop rest with
    | .error fault => .error fault
    | .ok ⟨(node, after), h⟩ => .ok ⟨(node, after), by grind⟩
  | tokens => .ok ⟨(.absent (nextStart tokens), tokens), by simp⟩
termination_by 5 * tokens.length + 0
decreasing_by all_goals grind

/-- Reads the items of a flow sequence and its end; `first` says that no item was read
before. -/
def readFlowItems (handles : Handles) (first : Bool) (tokens : List Token) :
    Except Fault (Reading (List Node) tokens) :=
  match tokens with
  | [] => failNext .missingSequenceEnd []
  | token :: rest =>
    if token.kind = .flowSequenceEnd then .ok ⟨([], rest), by simp⟩
    else if first then readFlowItem handles (token :: rest)
    else if token.kind = .flowEntry then
      match rest with
      | ⟨.flowSequenceEnd, _, _⟩ :: after => .ok ⟨([], after), by grind⟩
      | rest =>
        match readFlowItem handles rest with
        | .error fault => .error fault
        | .ok ⟨found, h⟩ => .ok ⟨found, by grind⟩
    else failNext .missingSequenceEnd (token :: rest)
termination_by 5 * tokens.length + 4
decreasing_by all_goals grind

/-- Reads an item of a flow sequence, the items after it and the end of the sequence. A
key makes the item a mapping with a single entry. -/
def readFlowItem (handles : Handles) (tokens : List Token) :
    Except Fault (Reading (List Node) tokens) :=
  match tokens with
  | ⟨.key, start, _⟩ :: rest =>
    match readFlowItemKey handles rest with
    | .error fault => .error fault
    | .ok ⟨(key, rest), h⟩ =>
      match readFlowItemValue handles rest with
      | .error fault => .error fault
      | .ok ⟨(value, rest), h'⟩ =>
        match readFlowItems handles false rest with
        | .error fault => .error fault
        | .ok ⟨(items, after), h''⟩ =>
          .ok ⟨(.mapping ⟨start, none, none⟩ [(key, value)] :: items, after),
            by grind⟩
  | tokens =>
    match readNode handles false false tokens with
    | .error fault => .error fault
    | .ok ⟨(item, rest), h⟩ =>
      match readFlowItems handles false rest with
      | .error fault => .error fault
      | .ok ⟨(items, after), h'⟩ => .ok ⟨(item :: items, after), by grind⟩
termination_by 5 * tokens.length + 3
decreasing_by all_goals grind

/-- Reads the key of an entry in a flow sequence. Where the key is absent, the token that
shows it to be is passed over. -/
def readFlowItemKey (handles : Handles) (tokens : List Token) :
    Except Fault (MaybeReading Node tokens) :=
  match tokens with
  | [] => failNext .missingNode []
  | token :: rest =>
    if token.kind = .value ∨ token.kind.endsFlowItem then
      .ok ⟨(.absent token.stop, rest), by simp⟩
    else
      match readNode handles false false (token :: rest) with
      | .error fault => .error fault
      | .ok ⟨found, h⟩ => .ok ⟨found, Nat.le_of_lt h⟩
termination_by 5 * tokens.length + 2
decreasing_by all_goals grind

/-- Reads the value of an entry in a flow sequence. -/
def readFlowItemValue (handles : Handles) (tokens : List Token) :
    Except Fault (MaybeReading Node tokens) :=
  match tokens with
  | ⟨.value, _, _⟩ :: rest =>
    match readOptional handles false false TokenKind.endsFlowItem (nextStart rest) rest with
    | .error fault => .error fault
    | .ok ⟨(node, after), h⟩ => .ok ⟨(node, after), by grind⟩
  | tokens => .ok ⟨(.absent (nextStart tokens), tokens), by simp⟩
termination_by 5 * tokens.length + 0
decreasing_by all_goals grind

/-- Reads the entries of a flow mapping and its end; `first` says that no entry was read
before. -/
def readFlowEntries (handles : Handles) (first : Bool) (tokens : List Token) :
    Except Fault (Reading (List (Node × Node)) tokens) :=
  match tokens with
  | [] => failNext .missingMappingEnd []
  | token :: rest =>
    if token.kind = .flowMappingEnd then .ok ⟨([], rest), by simp⟩
    else if first then readFlowEntry handles (token :: rest)
    else if token.kind = .flowEntry then
      match rest with
      | ⟨.flowMappingEnd, _, _⟩ :: after => .ok ⟨([], after), by grind⟩
      | rest =>
        match readFlowEntry handles rest with
        | .error fault => .error fault
        | .ok ⟨found, h⟩ => .ok ⟨found, by grind⟩
    else failNext .missingMappingEnd (token :: rest)
termination_by 5 * tokens.length + 4
decreasing_by all_goals grind

/-- Reads an entry of a flow mapping, the entries after it and the end of the mapping. A
node that is not known as a key is one without a value. -/
def readFlowEntry (handles : Handles) (tokens : List Token) :
    Except Fault (Reading (List (Node × Node)) tokens) :=
  match tokens with
  | ⟨.key, _, _⟩ :: rest =>
    match readOptional handles false false
        (fun kind => kind == .value || kind.endsFlowEntry) (nextStart rest) rest with
    | .error fault => .error fault
    | .ok ⟨(key, rest), h⟩ =>
      match readFlowEntryValue handles rest with
      | .error fault => .error fault
      | .ok ⟨(value, rest), h'⟩ =>
        match readFlowEntries handles false rest with
        | .error fault => .error fault
        | .ok ⟨(entries, after), h''⟩ =>
          .ok ⟨((key, value) :: entries, after), by grind⟩
  | tokens =>
    match readNode handles false false tokens with
    | .error fault => .error fault
    | .ok ⟨(key, rest), h⟩ =>
      match readFlowEntries handles false rest with
      | .error fault => .error fault
      | .ok ⟨(entries, after), h'⟩ =>
        .ok ⟨((key, .absent (nextStart rest)) :: entries, after), by grind⟩
termination_by 5 * tokens.length + 3
decreasing_by all_goals grind

/-- Reads the value of an entry of a flow mapping. -/
def readFlowEntryValue (handles : Handles) (tokens : List Token) :
    Except Fault (MaybeReading Node tokens) :=
  match tokens with
  | ⟨.value, _, _⟩ :: rest =>
    match readOptional handles false false TokenKind.endsFlowEntry (nextStart rest) rest with
    | .error fault => .error fault
    | .ok ⟨(node, after), h⟩ => .ok ⟨(node, after), by grind⟩
  | tokens => .ok ⟨(.absent (nextStart tokens), tokens), by simp⟩
termination_by 5 * tokens.length + 0
decreasing_by all_goals grind

end

end LeadingDot.Yaml
