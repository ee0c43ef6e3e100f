/-!
# Faults in YAML

What makes a text no YAML document: a cause, and the place at which it shows.
-/

namespace LeadingDot.Yaml

/-- A place in a text. The index counts characters; line and column count from zero. -/
structure Mark where
  index : Nat
  line : Nat
  column : Nat
  deriving DecidableEq, Repr

namespace Mark

/-- The place where a text starts. -/
def start : Mark := ⟨0, 0, 0⟩

/-- The place after a character of a line. -/
def next (mark : Mark) : Mark :=
  ⟨mark.index + 1, mark.line, mark.column + 1⟩

/-- The place after a line break of `width` characters. -/
def nextLine (mark : Mark) (width : Nat) : Mark :=
  ⟨mark.index + width, mark.line + 1, 0⟩

/-- How a place is added to what is said of it. The start of a text is not told. -/
def suffix (mark : Mark) : String :=
  if mark.line = 0 ∧ mark.column = 0 then ""
  else " at line " ++ toString (mark.line + 1) ++ " column " ++ toString (mark.column + 1)

end Mark

/-- What makes a text no YAML document. -/
inductive Cause where
  | controlCharacter
  | unexpectedCharacter
  | missingColon
  | entryNotAllowed
  | keyNotAllowed
  | valueNotAllowed
  | unknownDirective
  | missingDirectiveName
  | directiveNameCharacter
  | missingLineEnd
  | missingVersion
  | longVersion
  | versionCharacter
  | missingSpace
  | missingSpaceOrBreak
  | anchorName
  | tagMark
  | tagEnd
  | tagUri
  | uriOctet
  | uriLeadingOctet
  | uriTrailingOctet
  | zeroIndentation
  | tabIndentation
  | documentIndicator
  | endOfStream
  | unknownEscape
  | hexDigit
  | escapedCode
  | unexpectedColon
  | tabInPlain
  | missingDocumentStart
  | duplicateVersion
  | incompatibleVersion
  | duplicateTagDirective
  | undefinedHandle
  | missingNode
  | missingEntry
  | missingKey
  | missingSequenceEnd
  | missingMappingEnd
  | unknownAnchor
  | severalDocuments
  deriving DecidableEq, Repr

/-- What is said of a cause. -/
def Cause.message : Cause → String
  | controlCharacter => "control characters are not allowed"
  | unexpectedCharacter => "found character that cannot start any token"
  | missingColon => "could not find expected ':'"
  | entryNotAllowed => "block sequence entries are not allowed in this context"
  | keyNotAllowed => "mapping keys are not allowed in this context"
  | valueNotAllowed => "mapping values are not allowed in this context"
  | unknownDirective => "found unknown directive name"
  | missingDirectiveName => "could not find expected directive name"
  | directiveNameCharacter => "found unexpected non-alphabetical character"
  | missingLineEnd => "did not find expected comment or line break"
  | missingVersion => "did not find expected version number"
  | longVersion => "found extremely long version number"
  | versionCharacter => "did not find expected digit or '.' character"
  | missingSpace => "did not find expected whitespace"
  | missingSpaceOrBreak => "did not find expected whitespace or line break"
  | anchorName => "did not find expected alphabetic or numeric character"
  | tagMark => "did not find expected '!'"
  | tagEnd => "did not find the expected '>'"
  | tagUri => "did not find expected tag URI"
  | uriOctet => "did not find URI escaped octet"
  | uriLeadingOctet => "found an incorrect leading UTF-8 octet"
  | uriTrailingOctet => "found an incorrect trailing UTF-8 octet"
  | zeroIndentation => "found an indentation indicator equal to 0"
  | tabIndentation => "found a tab character where an indentation space is expected"
  | documentIndicator => "found unexpected document indicator"
  | endOfStream => "found unexpected end of stream"
  | unknownEscape => "found unknown escape character"
  | hexDigit => "did not find expected hexdecimal number"
  | escapedCode => "found invalid Unicode character escape code"
  | unexpectedColon => "found unexpected ':'"
  | tabInPlain => "found a tab character that violates indentation"
  | missingDocumentStart => "did not find expected <document start>"
  | duplicateVersion => "found duplicate %YAML directive"
  | incompatibleVersion => "found incompatible YAML document"
  | duplicateTagDirective => "found duplicate %TAG directive"
  | undefinedHandle => "found undefined tag handle"
  | missingNode => "did not find expected node content"
  | missingEntry => "did not find expected '-' indicator"
  | missingKey => "did not find expected key"
  | missingSequenceEnd => "did not find expected ',' or ']'"
  | missingMappingEnd => "did not find expected ',' or '\x7d'"
  | unknownAnchor => "unknown anchor"
  | severalDocuments =>
    "deserializing from YAML containing more than one document is not supported"

/-- A fault in a text. -/
structure Fault where
  cause : Cause
  mark : Mark
  deriving DecidableEq, Repr

/-- What is said of a fault. -/
def Fault.message (fault : Fault) : String :=
  fault.cause.message ++ fault.mark.suffix

end LeadingDot.Yaml
