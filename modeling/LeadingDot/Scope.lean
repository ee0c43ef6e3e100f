import LeadingDot.Text.Blank
import LeadingDot.Tree.Node

/-!
# Scopes

Bare calls are checked only inside bodies that are declared to give `some View`.
Each node says what happens below it: it may be left out with everything below, it
may stay in the scope it stands in, or it may open a scope that is checked or not.

The conditions of `if`, `guard` and `while` are hidden from the walk: bare calls are
normal there.
-/

namespace LeadingDot

/-- The declared type of a body that is checked. -/
def markerType : String := "some View"

/-- What a node does to the walk. -/
inductive ScopeEffect where
  /-- Leave out the node and everything below it. -/
  | prune
  /-- Go on in the scope around the node. -/
  | passThrough
  /-- Go on in a scope that is not checked. -/
  | enterOpaque
  /-- Go on in a scope that is checked. -/
  | enterChecked
  deriving DecidableEq, Repr

namespace ScopeEffect

/-- The name of an effect. -/
def name : ScopeEffect → String
  | prune => "Prune"
  | passThrough => "PassThrough"
  | enterOpaque => "EnterOpaque"
  | enterChecked => "EnterChecked"

end ScopeEffect

namespace Scope

/-- Keywords that introduce a type declaration. -/
def typeKeywords : List String := ["class", "struct", "actor", "enum", "extension"]

/-- Keywords of the type declarations whose bodies are left out. -/
def prunedKeywords : List String := ["class", "actor"]

/-- Kinds of the nodes that are left out whatever they hold. -/
def prunedKinds : List String :=
  ["init_declaration", "protocol_declaration", "subscript_declaration",
   "do_statement", "catch_block", "await_expression"]

/-- Kinds of the children at which a return type ends. -/
def returnTypeEnds : List String := ["function_body", "type_constraints", "where_clause"]

/-- Kinds of the statements whose conditions are hidden. -/
def conditionOwners : List String := ["if_statement", "guard_statement", "while_statement"]

/-- The keyword of a type declaration: the child that hangs under `declaration_kind`,
or else the first child that is a type keyword. -/
def typeKeyword? (node : Node) : Option String :=
  match node.childByField? "declaration_kind" with
  | some keyword => some keyword.kind
  | none => (node.children.find? fun child => typeKeywords.contains child.kind).map (·.kind)

/-- The children from which a function's return type is read: those after the first
arrow and before the body, comments left out. -/
def returnTypeNodes (node : Node) : List Node :=
  let afterArrow := (node.children.dropWhile (·.kind != "->")).drop 1
  (afterArrow.takeWhile fun child => !returnTypeEnds.contains child.kind).filter (!·.isComment)

/-- The text of a function's return type, from its first node to its last. -/
def returnType? (source : Source) (node : Node) : Option (List Char) :=
  let nodes := returnTypeNodes node
  match nodes.head?, nodes.getLast? with
  | some first, some last => (source.text? first.start last.stop).map Text.trim
  | _, _ => none

/-- The node that holds the type of a property's first binding. -/
def annotationNode? (node : Node) : Option Node :=
  (node.children.takeWhile (·.kind != ",")).find? (·.kind == "type_annotation")

/-- The text of the type of a property's first binding, without the colons before it. -/
def declaredType? (source : Source) (node : Node) : Option (List Char) :=
  (annotationNode? node).bind fun declared =>
    (declared.text? source).map fun text =>
      Text.trim ((Text.trim text).dropWhile (· == ':'))

/-- The scope of a body with a declared type. -/
def ofDeclaredType (declared : Option (List Char)) : ScopeEffect :=
  if declared = some markerType.toList then .enterChecked else .enterOpaque

/-- What a node does to the walk. -/
def classify (source : Source) (node : Node) : ScopeEffect :=
  if node.kind = "class_declaration" then
    if (typeKeyword? node).any prunedKeywords.contains then .prune else .passThrough
  else if prunedKinds.contains node.kind then .prune
  else if node.kind = "function_declaration" then ofDeclaredType (returnType? source node)
  else if node.kind = "property_declaration" then ofDeclaredType (declaredType? source node)
  else .passThrough

/-- Where the body of a statement starts: at its first opening brace. -/
def bodyStart? (node : Node) : Option Nat :=
  (node.children.find? (·.kind == "\x7b")).map (·.start)

/-- Whether a child belongs to the condition of a statement whose body starts at
`body?`: it hangs under `condition`, or it ends before the body. -/
def inCondition (body? : Option Nat) (child : Node) : Bool :=
  child.field == some "condition" || body?.any (child.stop ≤ ·)

/-- Whether the walk passes over a child of a node. -/
def hides (node : Node) : Node → Bool :=
  if conditionOwners.contains node.kind then inCondition (bodyStart? node) else fun _ => false

/-- The children of a node that the walk goes down into, in order. -/
def visibleChildren (node : Node) : List Node :=
  node.children.filter (!hides node ·)

end Scope

end LeadingDot
