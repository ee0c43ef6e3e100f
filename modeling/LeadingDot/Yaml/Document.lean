import LeadingDot.Yaml.Grammar

/-!
# Documents

A text holds one document. An alias in it stands for the node that was anchored under its
name before. Anchors are numbered by how many names there were before each of them; the
number, not the name, tells which node an alias stands for, and of several nodes with one
number it is the last.
-/

namespace LeadingDot.Yaml

/-- An anchored node or an alias, in the order in which they are written. -/
inductive Reference where
  | anchored (name : String) (node : Node)
  | reference (mark : Mark) (name : String)

/-- The anchor of a node, as a list. -/
def Properties.references (properties : Properties) (node : Node) : List Reference :=
  properties.anchor.toList.map (.anchored · node)

mutual

/-- The anchors and aliases of a node. -/
def Node.references : Node → List Reference
  | .scalar properties style text => properties.references (.scalar properties style text)
  | .sequence properties items =>
    properties.references (.sequence properties items) ++ itemReferences items
  | .mapping properties entries =>
    properties.references (.mapping properties entries) ++ entriesReferences entries
  | .reference mark name => [.reference mark name]

/-- The anchors and aliases of several nodes. -/
def itemReferences : List Node → List Reference
  | [] => []
  | item :: rest => item.references ++ itemReferences rest

/-- The anchors and aliases of the entries of a mapping. -/
def entriesReferences : List (Node × Node) → List Reference
  | [] => []
  | entry :: rest => entryReferences entry ++ entriesReferences rest

/-- The anchors and aliases of an entry of a mapping. -/
def entryReferences : Node × Node → List Reference
  | (key, value) => key.references ++ value.references

end

/-- The anchors and aliases that were seen so far. -/
structure Anchors where
  /-- The numbers of the names. -/
  numbers : List (String × Nat)
  /-- The nodes with their numbers, the last one first. -/
  nodes : List (Nat × Node)
  /-- The aliases with the numbers of what they stand for. -/
  aliases : List (Mark × Nat)

namespace Anchors

/-- The anchors before a document. -/
def empty : Anchors := ⟨[], [], []⟩

/-- Adds an anchored node or an alias. -/
def add (anchors : Anchors) : Reference → Except Fault Anchors
  | .anchored name node =>
    let number := anchors.numbers.length
    .ok
      { anchors with
        numbers := (name, number) :: anchors.numbers.filter (·.1 != name)
        nodes := (number, node) :: anchors.nodes }
  | .reference mark name =>
    match anchors.numbers.find? (·.1 == name) with
    | some (_, number) => .ok { anchors with aliases := (mark, number) :: anchors.aliases }
    | none => .error ⟨.unknownAnchor, mark⟩

/-- The anchors and aliases of a document. -/
def ofReferences (references : List Reference) : Except Fault Anchors :=
  references.foldlM add empty

/-- The node that the alias at a place stands for. -/
def target? (anchors : Anchors) (mark : Mark) : Option Node := do
  let (_, number) ← anchors.aliases.find? (·.1 == mark)
  (anchors.nodes.find? (·.1 == number)).map (·.2)

end Anchors

/-- A document: its node, if there is one, and what its aliases stand for. -/
structure Document where
  root? : Option Node
  anchors : Anchors

namespace Document

/-- The node itself, or the node that it stands for. -/
def resolve (document : Document) (node : Node) : Node :=
  match node with
  | .reference mark _ => (document.anchors.target? mark).getD node
  | _ => node

/-- What was read of the directives before a document. -/
structure Prologue where
  version : Bool
  handles : Handles

/-- Adds a directive. -/
def Prologue.add (prologue : Prologue) (directive : Directive) (mark : Mark) :
    Except Fault Prologue :=
  match directive with
  | .version major minor =>
    if prologue.version then .error ⟨.duplicateVersion, mark⟩
    else if major = 1 ∧ (minor = 1 ∨ minor = 2) then .ok { prologue with version := true }
    else .error ⟨.incompatibleVersion, mark⟩
  | .tag handle stem =>
    if prologue.handles.any (·.1 == handle) then .error ⟨.duplicateTagDirective, mark⟩
    else .ok { prologue with handles := (handle, stem) :: prologue.handles }

/-- Reads the directives before a document. -/
def readPrologue (prologue : Prologue) : List Token → Except Fault (Prologue × List Token)
  | [] => .ok (prologue, [])
  | ⟨kind, start, stop⟩ :: rest =>
    match kind with
    | .directive directive => do readPrologue (← prologue.add directive start) rest
    | _ => .ok (prologue, ⟨kind, start, stop⟩ :: rest)

/-- Whether a document that was started has no node before a token. -/
def endsContent : TokenKind → Bool
  | .directive _ | .documentStart | .documentEnd | .streamEnd => true
  | _ => false

/-- Reads the node of a document, and leaves the tokens after it. A document may do
without its starting dashes if it has no directives. -/
def readRoot (tokens : List Token) : Except Fault (Option Node × List Token) := do
  let next := nextKind tokens
  if next == .streamEnd then return (none, tokens)
  else if endsContent next && next != .documentEnd then
    let (prologue, rest) ← readPrologue ⟨false, []⟩ tokens
    if nextKind rest == .documentStart then
      let ⟨(node, after), _⟩ ←
        readOptional prologue.handles true false endsContent (nextStart (rest.drop 1)) (rest.drop 1)
      return (some node, after)
    else failNext .missingDocumentStart rest
  else
    let ⟨(node, after), _⟩ ← readNode [] true false tokens
    return (some node, after)

/-- Checks that a stream ends after a document. -/
def checkEnd (tokens : List Token) : Except Fault Unit :=
  let rest := tokens.dropWhile (·.kind == .documentEnd)
  match nextKind rest with
  | .streamEnd => .ok ()
  | .documentStart | .directive _ => .error ⟨.severalDocuments, .start⟩
  | _ => failNext .missingDocumentStart rest

/-- The document that a text holds. -/
def ofText (text : List Char) : Except Fault Document := do
  let (root?, rest) ← readRoot (← tokens text)
  checkEnd rest
  let references := (root?.map Node.references).getD []
  return ⟨root?, ← Anchors.ofReferences references⟩

end Document

end LeadingDot.Yaml
