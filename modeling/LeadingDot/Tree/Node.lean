import LeadingDot.Tree.Source

/-!
# Syntax nodes

A node of a Swift syntax tree has a kind, a byte range, the field under which it
hangs in its parent, if any, and its children in source order. Anonymous tokens
are nodes too; their kind is their text.

A tree can be written as a list of entries in pre-order, each with its depth.
-/

namespace LeadingDot

/-- A node with everything below it. -/
structure Node where
  kind : String
  start : Nat
  stop : Nat
  field : Option String
  children : List Node

namespace Node

/-- The text of a node, if its range holds well-formed text. -/
def text? (source : Source) (node : Node) : Option (List Char) :=
  source.text? node.start node.stop

/-- The text of a node, empty when it is malformed. -/
def text (source : Source) (node : Node) : String :=
  String.ofList ((node.text? source).getD [])

/-- Kinds of the comments. -/
def commentKinds : List String := ["comment", "multiline_comment"]

/-- Whether the node is a comment. -/
def isComment (node : Node) : Bool :=
  commentKinds.contains node.kind

/-- The place of the first child that hangs under a field. -/
def fieldIndex? (node : Node) (name : String) : Option Nat :=
  node.children.findIdx? (·.field == some name)

/-- The first child that hangs under a field. -/
def childByField? (node : Node) (name : String) : Option Node :=
  node.children.find? (·.field == some name)

mutual

/-- The node and all nodes below it, in pre-order. -/
def preorder : Node → List Node
  | ⟨kind, start, stop, field, children⟩ =>
    ⟨kind, start, stop, field, children⟩ :: preorderAll children

/-- The nodes of several trees, in pre-order. -/
def preorderAll : List Node → List Node
  | [] => []
  | node :: nodes => preorder node ++ preorderAll nodes

end

/-- Number of nodes of a tree. -/
def size (node : Node) : Nat :=
  node.preorder.length

/-- Number of nodes of several trees. -/
def sizeAll (nodes : List Node) : Nat :=
  (preorderAll nodes).length

@[simp] theorem sizeAll_nil : sizeAll [] = 0 := rfl

@[simp] theorem sizeAll_cons (node : Node) (nodes : List Node) :
    sizeAll (node :: nodes) = node.size + sizeAll nodes := by
  rw [sizeAll, preorderAll, List.length_append]
  rfl

@[simp] theorem sizeAll_append (nodes others : List Node) :
    sizeAll (nodes ++ others) = sizeAll nodes + sizeAll others := by
  induction nodes with
  | nil => simp
  | cons node nodes ih => rw [List.cons_append, sizeAll_cons, sizeAll_cons, ih, Nat.add_assoc]

theorem sizeAll_filter_le (p : Node → Bool) (nodes : List Node) :
    sizeAll (nodes.filter p) ≤ sizeAll nodes := by
  induction nodes with
  | nil => exact Nat.le_refl _
  | cons node nodes ih =>
    rw [List.filter_cons]
    split <;> simp only [sizeAll_cons] <;> omega

/-- A tree has its root and the nodes below the children. -/
theorem size_eq (node : Node) : node.size = 1 + sizeAll node.children := by
  obtain ⟨kind, start, stop, field, children⟩ := node
  rw [size, preorder, List.length_cons, Nat.add_comm]
  rfl

theorem size_pos (node : Node) : 0 < node.size := by
  rw [size_eq]
  omega

end Node

/-- A node in a listing: its depth below the root and what it says of itself. -/
structure Entry where
  depth : Nat
  kind : String
  start : Nat
  stop : Nat
  field : Option String
  deriving Repr

namespace Entry

/-- Puts an entry before a forest that was built from the entries after it: the
leading trees that lie deeper are its children. -/
def plant (entry : Entry) (forest : List (Nat × Node)) : List (Nat × Node) :=
  let below := forest.takeWhile (entry.depth < ·.1)
  let beside := forest.dropWhile (entry.depth < ·.1)
  (entry.depth, ⟨entry.kind, entry.start, entry.stop, entry.field, below.map (·.2)⟩) :: beside

end Entry

/-- The tree of a listing in pre-order, whose first entry is the root. -/
def Node.ofEntries? (entries : List Entry) : Option Node :=
  (entries.foldr Entry.plant []).head?.map (·.2)

end LeadingDot
