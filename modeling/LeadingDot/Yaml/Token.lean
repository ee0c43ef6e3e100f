import LeadingDot.Yaml.Directive
import LeadingDot.Yaml.Scalar

/-!
# Tokens

The words of a YAML text. Some of them are not written: the blocks that the indentation
shows, and the keys that are known as such only by the colon after them.
-/

namespace LeadingDot.Yaml

/-- What a token is. -/
inductive TokenKind where
  | streamEnd
  | directive (directive : Directive)
  | documentStart
  | documentEnd
  | blockSequenceStart
  | blockMappingStart
  | blockEnd
  | flowSequenceStart
  | flowSequenceEnd
  | flowMappingStart
  | flowMappingEnd
  | blockEntry
  | flowEntry
  | key
  | value
  | reference (name : String)
  | anchor (name : String)
  | tag (tag : WrittenTag)
  | scalar (style : ScalarStyle) (text : String)
  deriving DecidableEq, Repr

/-- A token and the places where it starts and ends. -/
structure Token where
  kind : TokenKind
  start : Mark
  stop : Mark
  deriving DecidableEq, Repr

/-- A token of no width. -/
def Token.empty (kind : TokenKind) (mark : Mark) : Token := ⟨kind, mark, mark⟩

end LeadingDot.Yaml
