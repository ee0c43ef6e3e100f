import LeadingDot.Glob.Pattern

/-!
# Matching glob patterns

Whether a pattern matches a path is found from the end of the pattern to its start. For
what is left of the pattern, a row says of every end of the path, the longest one first,
whether it is matched; each part makes the row for itself and what follows out of the row
for what follows.
-/

namespace LeadingDot.Glob

/-- A truth value for every end of a text, from the whole text to the empty end. -/
abbrev Row := List Bool

namespace Row

/-- The row in which the empty end alone is matched. -/
def ofEnd (text : List UInt8) : Row :=
  text.map (fun _ => false) ++ [true]

/-- The row of the ends that are matched in one of two rows. -/
def or : Row → Row → Row := List.zipWith (· || ·)

/-- The row of the ends that start with a byte satisfying `p` and go on with an end that
is matched. -/
def byte (p : UInt8 → Bool) : List UInt8 → Row → Row
  | b :: text, _ :: row => (p b && row.headD false) :: byte p text row
  | _, _ => [false]

/-- The row of the ends that have an end which is matched. -/
def skip : Row → Row
  | [] => []
  | found :: row =>
    let rest := skip row
    (found || rest.headD false) :: rest

/-- The row of the ends that start with a slash and go on with an end that is matched. -/
def slash : List UInt8 → Row → Row := byte (· == 0x2F)

end Row

/-- The bytes of a character. -/
def bytesOf (c : Char) : List UInt8 :=
  (String.singleton c).toUTF8.toList

/-- Whether a byte lies in a range of a class. The bytes of both ends are taken one by
one, and only between the last byte of the low end and the first byte of the high end
lies a range; a range of one character is its bytes. -/
def inRange (b : UInt8) (range : Char × Char) : Bool :=
  let low := bytesOf range.1
  let high := bytesOf range.2
  if range.1 = range.2 then low.contains b
  else low.contains b || high.contains b || (low.getLastD 0 ≤ b && b ≤ high.headD 0)

mutual

/-- The row of the ends that are matched by a part and then as `row` says. -/
def Part.before (text : List UInt8) (row : Row) : Part → Row
  | .literal c => (bytesOf c).foldr (fun b row => row.byte (· == b) text) row
  | .anyByte => row.byte (fun _ => true) text
  | .anyText => row.skip
  | .leadingDirectories => row.or (row.slash text).skip
  | .beneath => row.skip.slash text
  | .innerDirectories => (row.slash text).or ((row.slash text).skip.slash text)
  | .oneOf negated ranges => row.byte (fun b => ranges.any (inRange b) != negated) text
  | .alternatives [] => row
  | .alternatives (parts :: branches) => branchesBefore text row (parts :: branches)

/-- The row of the ends that are matched by a sequence of parts and then as `row` says. -/
def partsBefore (text : List UInt8) (row : Row) : List Part → Row
  | [] => row
  | part :: rest => part.before text (partsBefore text row rest)

/-- The row of the ends that are matched by some branch and then as `row` says. -/
def branchesBefore (text : List UInt8) (row : Row) : List (List Part) → Row
  | [] => row.map fun _ => false
  | parts :: rest => (partsBefore text row parts).or (branchesBefore text row rest)

end

/-- The text that a sequence of parts spells, if it holds nothing else. -/
def spelled? (parts : List Part) : Option (List Char) :=
  parts.mapM fun
    | .literal c => some c
    | _ => none

/-- Whether a pattern with a dot at its end says nothing about the last name of a path
beyond the text it ends with. -/
def endsFreely : List Part → Bool
  | .leadingDirectories :: .anyText :: rest => (spelled? rest).any (· != ['.'])
  | .leadingDirectories :: rest => (spelled? rest).any (·.contains '/')
  | .anyText :: rest => (spelled? rest).any (· != ['.'])
  | parts => (spelled? parts).isSome

/-- Whether a pattern asks for a last name, or for an extension of it, that ends in a
dot. The name `..` is neither such a name, nor has it an extension. -/
def asksForName (parts : List Part) : Bool :=
  match parts.getLast? with
  | some (.literal '.') => !endsFreely parts
  | _ => false

/-- Whether the last name of a path is `..`. -/
def endsInParent (path : List UInt8) : Bool :=
  (path.reverse.takeWhile (· != 0x2F)) == [0x2E, 0x2E]

/-- Whether a pattern matches the bytes of a path. -/
def matchesText (parts : List Part) (path : List UInt8) : Bool :=
  match parts with
  | [.leadingDirectories] => true
  | _ => (partsBefore path (Row.ofEnd path) parts).headD false

/-- Whether a pattern matches a path. -/
def isMatch (parts : List Part) (path : List UInt8) : Bool :=
  matchesText parts path && !(asksForName parts && endsInParent path)

end LeadingDot.Glob
