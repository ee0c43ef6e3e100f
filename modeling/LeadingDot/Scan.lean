import LeadingDot.Catalog
import LeadingDot.Scope
import LeadingDot.Tree.Parsed
import LeadingDot.Tree.Token
import LeadingDot.Violation

/-!
# Scan for missing dots

A bare call to a view modifier in a checked scope was most likely meant to go on
with the chain before it: its leading dot is missing. The scan walks a tree from the
root and reports the identifiers that look like such calls.

The walk keeps the nodes that wait on a stack, each with whether the scope around it is
checked and how it hangs in its parent. Its depth is therefore not bounded by that of
the tree.
-/

namespace LeadingDot

/-- Settings of the rule. -/
structure RuleConfig where
  severity : Severity := .error
  /-- Modifier names beside the built-in ones. -/
  additionalModifiers : List String := []
  deriving DecidableEq, Repr

namespace Scan

/-- Kinds of the parents below which an identifier names something and does not
refer to it. -/
def namingKinds : List String :=
  ["capture_list_item", "enum_entry", "function_declaration", "identifier",
   "import_declaration", "lambda_parameter", "navigation_suffix", "operator_declaration",
   "parameter", "pattern", "precedence_group_declaration", "protocol_function_declaration",
   "statement_label", "value_argument_label"]

/-- Tokens after which an identifier does not start a bare call: it is a chained
call, an argument, an interpolated value, a labelled value, or what `switch` looks at. -/
def precludingTokens : List String := ["switch", ".", "(", "\\(", ":"]

/-- Tokens that open the arguments of a call. -/
def callOpeners : List String := ["(", "\x7b"]

/-- What stays the same during a scan. -/
structure Context where
  path : String
  source : Source
  tokens : TokenStream
  catalog : Catalog
  severity : Severity

/-- How a node hangs in the tree: its parent, if it is not the root, and whether it
is the child that names the parent. -/
structure Site where
  parent? : Option Node
  isName : Bool

/-- Whether an identifier refers to something and does not name it. -/
def Site.isReference (site : Site) : Bool :=
  match site.parent? with
  | none => false
  | some parent => !namingKinds.contains parent.kind && !site.isName

/-- Whether an identifier stands where a bare call to a modifier stands. -/
def isBareCall (context : Context) (node : Node) : Bool :=
  !((context.tokens.previous? node).any fun token => precludingTokens.contains token.text) &&
    (context.tokens.next? node).any fun token => callOpeners.contains token.text

/-- The report of a bare call to a modifier. -/
def violation (context : Context) (node : Node) : Violation :=
  let position := context.source.position node.start
  { rule := .missingDot
    message := "Missing '" ++ node.text context.source ++ "' leading dot"
    file := context.path
    line := position.line
    column := position.column
    offset := node.start
    severity := context.severity }

/-- Whether a node in a checked scope is reported. -/
def isReported (context : Context) (site : Site) (node : Node) : Bool :=
  node.kind == "simple_identifier" && site.isReference &&
    context.catalog.contains (node.text context.source) && isBareCall context node

/-- Whether the scope below a node is checked, given whether the scope around it is;
`none` if nothing below it is walked. -/
def enter (checked : Bool) : ScopeEffect → Option Bool
  | .prune => none
  | .passThrough => some checked
  | .enterOpaque => some false
  | .enterChecked => some true

/-- A node that waits to be visited. -/
structure Frame where
  node : Node
  site : Site
  /-- Whether the scope around the node is checked. -/
  checked : Bool

/-- The root of a tree as it waits for a walk. Outside of all bodies nothing is checked. -/
def Frame.ofRoot (root : Node) : Frame := ⟨root, ⟨none, false⟩, false⟩

/-- The children of a node that the walk goes down into, in order, where `checked` tells
of the scope below the node. -/
def framesBelow (node : Node) (checked : Bool) : List Frame :=
  let name? := node.fieldIndex? "name"
  (node.children.zipIdx.filter fun child => !Scope.hides node child.1).map fun (child, index) =>
    ⟨child, ⟨some node, name? == some index⟩, checked⟩

/-- The state of a walk. -/
structure Walk where
  /-- The nodes that wait, the next one first. -/
  stack : List Frame
  /-- The violations found so far, in order. -/
  found : Array Violation

namespace Walk

/-- The state at the start, before the root of a tree. -/
def ofRoot (root : Node) : Walk := ⟨[.ofRoot root], #[]⟩

/-- Visits the next node that waits. Its children wait in front of all others, so the
nodes are visited in pre-order. -/
def step? (context : Context) (walk : Walk) : Option Walk :=
  match walk.stack with
  | [] => none
  | ⟨node, site, around⟩ :: stack =>
    match enter around (Scope.classify context.source node) with
    | none => some { walk with stack }
    | some checked => some
      { stack := framesBelow node checked ++ stack
        found :=
          if checked && isReported context site node then
            walk.found.push (violation context node)
          else walk.found }

/-- Number of nodes still to come, those that will be passed over among them. -/
def nodesLeft (walk : Walk) : Nat :=
  Node.sizeAll (walk.stack.map (·.node))

/-- The frames below a node are its visible children. -/
theorem map_node_framesBelow (node : Node) (checked : Bool) :
    (framesBelow node checked).map (·.node) = Scope.visibleChildren node := by
  have hmap : ∀ (children : List Node) (k : Nat),
      ((children.zipIdx k).filter fun child => !Scope.hides node child.1).map Prod.fst =
        children.filter (!Scope.hides node ·) := by
    intro children
    induction children with
    | nil => intro k; rfl
    | cons child rest ih =>
      intro k
      simp only [List.zipIdx_cons, List.filter_cons]
      split <;> simp [ih]
  simpa [framesBelow, Scope.visibleChildren, Function.comp_def] using hmap node.children 0

theorem nodesLeft_step? {context : Context} {walk next : Walk}
    (h : walk.step? context = some next) : next.nodesLeft < walk.nodesLeft := by
  unfold step? at h
  split at h
  · cases h
  · next node site around stack heq =>
    have hwalk : walk.nodesLeft = node.size + Node.sizeAll (stack.map (·.node)) := by
      simp [nodesLeft, heq]
    have hsize := Node.size_eq node
    have hvisible : Node.sizeAll (Scope.visibleChildren node) ≤ Node.sizeAll node.children :=
      Node.sizeAll_filter_le ..
    split at h
    · cases h
      simp only [nodesLeft] at hwalk ⊢
      omega
    · cases h
      simp only [nodesLeft, List.map_append, Node.sizeAll_append, map_node_framesBelow] at hwalk ⊢
      omega

/-- Visits all nodes that wait and gives the violations found. -/
def run (context : Context) (walk : Walk) : Array Violation :=
  match _h : walk.step? context with
  | none => walk.found
  | some next => run context next
termination_by walk.nodesLeft
decreasing_by exact nodesLeft_step? _h

end Walk

/-- What stays the same during the scan of a source. -/
def Context.ofParsed (parsed : ParsedSource) (config : RuleConfig) : Context :=
  { path := parsed.path
    source := parsed.source
    tokens := TokenStream.ofNode parsed.source parsed.root
    catalog := Catalog.ofNames config.additionalModifiers
    severity := config.severity }

end Scan

/-- The bare calls to modifiers in a parsed source, in source order. -/
def scan (parsed : ParsedSource) (config : RuleConfig) : List Violation :=
  ((Scan.Walk.ofRoot parsed.root).run (Scan.Context.ofParsed parsed config)).toList

end LeadingDot
