import LeadingDot.Yaml.Scalar
import LeadingDot.Yaml.Tag

/-!
# Nodes

A document is a tree of scalars, sequences and mappings. A node may be anchored under a
name, and further on an alias stands for the node with that name.
-/

namespace LeadingDot.Yaml

/-- What is written before a node, and the place where the node starts with it. -/
structure Properties where
  mark : Mark
  anchor : Option String
  tag : Option Tag
  deriving DecidableEq, Repr

/-- A node of a document. -/
inductive Node where
  | scalar (properties : Properties) (style : ScalarStyle) (text : String)
  | sequence (properties : Properties) (items : List Node)
  | mapping (properties : Properties) (entries : List (Node × Node))
  | reference (mark : Mark) (name : String)
  deriving Repr

namespace Node

/-- The place where a node starts. -/
def mark : Node → Mark
  | scalar properties .. | sequence properties _ | mapping properties _ => properties.mark
  | reference mark _ => mark

/-- The node where nothing is written. -/
def absent (mark : Mark) : Node := .scalar ⟨mark, none, none⟩ .plain ""

end Node

end LeadingDot.Yaml
