import LeadingDot.Text.Quoted
import LeadingDot.Tree.Node

/-!
# Parsed sources

A source together with the tree that a parser built of it. A parser recovers from errors,
so there is a tree even of a source that is no Swift.
-/

namespace LeadingDot

/-- A source that was parsed: its bytes, its tree, and whether the parser had to
recover from an error. -/
structure ParsedSource where
  path : String
  source : Source
  root : Node
  hasErrors : Bool

namespace ParsedSource

/-- A line that tells a parsed source from others, without its contents. -/
def outline (parsed : ParsedSource) : String :=
  "ParsedFile \x7b path: " ++ Text.quoted parsed.path ++
    ", bytes: " ++ toString parsed.source.bytes.size ++
    ", has_errors: " ++ (if parsed.hasErrors then "true" else "false") ++ " \x7d"

end ParsedSource

end LeadingDot
