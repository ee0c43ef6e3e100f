import LeadingDot.Text.Utf8

/-!
# Paths

A path is a byte string of names with slashes between them. What it means is its sequence
of components: repeated slashes, a slash at the end and a single dot count for nothing, but
a leading slash stands for the root and a leading dot for the current directory.

A part of a path is cut out of its bytes, so it keeps whatever separators stand inside it.
The bytes need not be those of a text. What is shown of a path has the replacement character
for each malformed unit, so different paths can be shown alike.
-/

namespace LeadingDot

/-- The name of something on a disk, by its bytes. -/
abbrev FileName := List UInt8

/-- The name with the bytes of a text. -/
def FileName.ofString (s : String) : FileName := Text.Utf8.encode s.toList

/-- A component of a path. -/
inductive Component where
  | root
  | current
  | parent
  | name (bytes : FileName)
  deriving DecidableEq, Repr

namespace Component

/-- The component that the bytes between slashes stand for, if they count. -/
def ofText? (text : List UInt8) : Option Component :=
  if text = [] ∨ text = [0x2E] then none
  else if text = [0x2E, 0x2E] then some .parent
  else some (.name text)

/-- The name of a component that is one. -/
def name? : Component → Option FileName
  | name bytes => some bytes
  | _ => none

end Component

/-- A path, by its bytes. -/
structure Path where
  text : List UInt8
  deriving DecidableEq, Repr

namespace Path

/-- The path with the bytes of a text. -/
def ofString (s : String) : Path := ⟨Text.Utf8.encode s.toList⟩

/-- What is shown of a path. -/
def toString (path : Path) : String := String.ofList (Text.Utf8.decodeLossy path.text)

/-- The path of the root directory. -/
def root : Path := ⟨[0x2F]⟩

/-- Whether a byte separates components. -/
def isSlash (b : UInt8) : Bool := b == 0x2F

/-- What stands between the slashes of a path, the first piece reversed in `seen`. -/
def pieces : (seen : List UInt8) → List UInt8 → List (List UInt8)
  | seen, [] => [seen.reverse]
  | seen, b :: rest =>
    if isSlash b then seen.reverse :: pieces [] rest else pieces (b :: seen) rest

/-- The component that a path starts with and the others do not: the root, or the
current directory. -/
def anchor (text : List UInt8) : List Component :=
  match text with
  | 0x2F :: _ => [.root]
  | [0x2E] => [.current]
  | 0x2E :: 0x2F :: _ => [.current]
  | _ => []

/-- The components of a path, from its anchor on. -/
def components (path : Path) : List Component :=
  anchor path.text ++ (pieces [] path.text).filterMap Component.ofText?

/-- Whether a path starts at the root. -/
def isAbsolute (path : Path) : Bool :=
  path.text.head?.any isSlash

/-- Drops slashes and single dots at the start of what goes on a path. -/
def dropFiller : List UInt8 → List UInt8
  | [] => []
  | 0x2F :: rest => dropFiller rest
  | [0x2E] => []
  | 0x2E :: 0x2F :: rest => dropFiller rest
  | text => text

/-- Drops a number of components from what goes on a path, and what counts for nothing before
the next one. -/
def dropNames : Nat → List UInt8 → List UInt8
  | 0, text => dropFiller text
  | n + 1, text => dropNames n ((dropFiller text).dropWhile (!isSlash ·))

/-- Drops slashes and single dots at the end of what goes on a path, reversed. -/
def dropFillerReversed : List UInt8 → List UInt8
  | [] => []
  | 0x2F :: rest => dropFillerReversed rest
  | 0x2E :: 0x2F :: rest => dropFillerReversed (0x2F :: rest)
  | text => text

/-- Drops slashes and single dots at the end of what goes on a path. -/
def dropFillerEnd (text : List UInt8) : List UInt8 :=
  (dropFillerReversed text.reverse).reverse

/-- The bytes of a path without what counts for nothing at its end. -/
def trimmed (path : Path) : List UInt8 :=
  if (anchor path.text).isEmpty then dropFillerEnd path.text
  else path.text.take 1 ++ dropFillerEnd (path.text.drop 1)

/-- The bytes of a path after a number of components, the anchor counted. -/
def after (path : Path) : Nat → List UInt8
  | 0 => path.trimmed
  | count + 1 =>
    if (anchor path.text).isEmpty then dropFillerEnd (dropNames (count + 1) path.text)
    else dropFillerEnd (dropNames count (path.text.drop 1))

/-- What is left of a path below another one, if it lies there. -/
def below? (path base : Path) : Option Path :=
  if base.components.isPrefixOf path.components then
    some ⟨path.after base.components.length⟩
  else
    none

/-- Whether two paths have the same components. -/
def same (a b : Path) : Bool :=
  a.components == b.components

/-- The name at the end of a path, if it ends in one. -/
def fileName? (path : Path) : Option FileName :=
  path.components.getLast?.bind Component.name?

/-- Splits a name at its last dot. A dot at the start splits nothing off. -/
def splitName (name : FileName) : List UInt8 × Option (List UInt8) :=
  let after := name.reverse.takeWhile (· != 0x2E)
  let before := (name.reverse.dropWhile (· != 0x2E)).drop 1
  if name = [0x2E, 0x2E] ∨ before = [] then (name, none)
  else (before.reverse, some after.reverse)

/-- The name at the end of a path without its extension. -/
def stem? (path : Path) : Option (List UInt8) :=
  path.fileName?.map fun name => (splitName name).1

/-- The extension of the name at the end of a path. -/
def extension? (path : Path) : Option (List UInt8) :=
  path.fileName?.bind fun name => (splitName name).2

/-- The bytes of a path without its last name. -/
def dropEnd (path : Path) : List UInt8 :=
  let text := dropFillerReversed path.text.reverse
  (text.dropWhile (!isSlash ·)).reverse

/-- The path without its last component, unless that is the root. -/
def parent? (path : Path) : Option Path :=
  match path.components.getLast? with
  | none => none
  | some .root => none
  | some _ =>
    let count := path.components.length - 1
    if count = 0 then some ⟨[]⟩
    else if count = 1 ∧ path.isAbsolute then some root
    else some ⟨dropFillerEnd path.dropEnd⟩

/-- A path below another one; a path from the root stays as it is. -/
def join (base path : Path) : Path :=
  if path.isAbsolute then path
  else if base.text = [] ∨ base.text.getLast?.any isSlash then ⟨base.text ++ path.text⟩
  else ⟨base.text ++ 0x2F :: path.text⟩

end Path

end LeadingDot
