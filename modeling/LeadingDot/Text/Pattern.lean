/-!
# Patterns

Patterns over characters with repetition, choice and numbered groups. Of the ways in
which a pattern can match, the first one counts: the left branch of a choice comes
before the right one, and a repetition tries more characters first if it is greedy
and fewer first if it is not.
-/

namespace LeadingDot.Text

/-- A pattern over characters. Repetition is of single characters only, so every
pattern can be tried by recursion on the text. -/
inductive Pattern where
  /-- The empty text. -/
  | empty
  /-- One character of a class. -/
  | one (p : Char → Bool)
  /-- Any number of characters of a class, more of them first if `greedy`. -/
  | many (greedy : Bool) (p : Char → Bool)
  /-- One pattern after the other. -/
  | seq (a b : Pattern)
  /-- The first pattern, or else the second. -/
  | either (a b : Pattern)
  /-- A pattern whose text is kept under a number. -/
  | group (number : Nat) (a : Pattern)

namespace Pattern

/-- The texts kept so far, the latest first. -/
abbrev Groups := List (Nat × List Char)

/-- The text kept under a number. -/
def Groups.get? (groups : Groups) (number : Nat) : Option (List Char) :=
  (groups.find? (·.1 == number)).map (·.2)

/-- Takes characters of a class for as long as `next` refuses what is left, giving up
characters (`greedy`) or taking more of them. -/
def runMany {β : Type} (greedy : Bool) (p : Char → Bool) (next : List Char → Option β) :
    List Char → Option β
  | [] => next []
  | c :: cs =>
    let more := if p c then runMany greedy p next cs else none
    if greedy then more <|> next (c :: cs) else next (c :: cs) <|> more

/-- Matches a pattern at the start of a text and goes on with `next` on what is left;
if `next` refuses, the next way to match is tried. -/
def run {β : Type} : Pattern → List Char → Groups → (List Char → Groups → Option β) → Option β
  | empty, cs, groups, next => next cs groups
  | one _, [], _, _ => none
  | one p, c :: cs, groups, next => if p c then next cs groups else none
  | many greedy p, cs, groups, next => runMany greedy p (next · groups) cs
  | seq a b, cs, groups, next => run a cs groups fun rest kept => run b rest kept next
  | either a b, cs, groups, next => run a cs groups next <|> run b cs groups next
  | group number a, cs, groups, next =>
    run a cs groups fun rest kept =>
      next rest ((number, cs.take (cs.length - rest.length)) :: kept)

/-- A match of a pattern in a text. -/
structure Match where
  /-- What stands before the match. -/
  before : List Char
  groups : Groups
  /-- What stands after the match. -/
  after : List Char

/-- The first match of a pattern at the start of a text. -/
def matchHere? (pattern : Pattern) (cs : List Char) : Option (Groups × List Char) :=
  pattern.run cs [] fun rest groups => some (groups, rest)

/-- The leftmost match of a pattern in a text that stands after the reversed `seen`. -/
def searchFrom? (pattern : Pattern) (seen : List Char) : List Char → Option Match
  | [] => (pattern.matchHere? []).map fun found => ⟨seen.reverse, found.1, found.2⟩
  | c :: cs =>
    match pattern.matchHere? (c :: cs) with
    | some (groups, rest) => some ⟨seen.reverse, groups, rest⟩
    | none => searchFrom? pattern (c :: seen) cs

/-- The leftmost match of a pattern in a text. -/
def search? (pattern : Pattern) (cs : List Char) : Option Match :=
  pattern.searchFrom? [] cs

/-- One pattern after the other, for a list of patterns. -/
def sequence : List Pattern → Pattern
  | [] => empty
  | [a] => a
  | a :: rest => seq a (sequence rest)

/-- A fixed text. -/
def literal (text : String) : Pattern :=
  sequence (text.toList.map fun c => one (· == c))

/-- A pattern or nothing, the pattern first. -/
def optional (a : Pattern) : Pattern :=
  either a empty

/-- At least one character of a class, as many as possible first. -/
def some1 (p : Char → Bool) : Pattern :=
  seq (one p) (many true p)

end Pattern

end LeadingDot.Text
