import LeadingDot.Text.Utf8

/-!
# Source bytes

A source is the bytes of a file, well-formed text or not. Places in it are byte
offsets; a line ends after a line feed byte.
-/

namespace LeadingDot

/-- The bytes of a file. -/
structure Source where
  bytes : Array UInt8

/-- A place in a source: both numbers count from one, the column in bytes. -/
structure Position where
  line : Nat
  column : Nat
  deriving DecidableEq, Repr

namespace Source

/-- The byte that ends a line. -/
def newline : UInt8 := 0x0A

/-- The bytes from `start` up to `stop`, if that is a range of the source. -/
def slice? (source : Source) (start stop : Nat) : Option (List UInt8) :=
  if start ≤ stop ∧ stop ≤ source.bytes.size then
    some (source.bytes.extract start stop).toList
  else
    none

/-- The characters from `start` up to `stop`, if that is a range of the source and
holds well-formed text. -/
def text? (source : Source) (start stop : Nat) : Option (List Char) :=
  (source.slice? start stop).bind Text.Utf8.decode?

/-- The text of the whole source, empty when it is malformed. -/
def contents (source : Source) : String :=
  String.ofList ((Text.Utf8.decode? source.bytes.toList).getD [])

/-- The text of the whole source, with replacement characters where it is malformed. -/
def contentsLossy (source : Source) : String :=
  String.ofList (Text.Utf8.decodeLossy source.bytes.toList)

/-- The line and column of a byte offset. -/
def position (source : Source) (offset : Nat) : Position :=
  let before := (source.bytes.extract 0 offset).toList
  { line := before.count newline + 1
    column := (before.reverse.takeWhile (· != newline)).length + 1 }

end Source

end LeadingDot
