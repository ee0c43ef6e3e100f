import LeadingDot.Tree.Cursor

/-!
# Tokens

The tokens of a source are the leaves of its tree. Comments are trivia: neither a
comment nor anything below it is a token. A leaf of no width was inserted by the
parser in its recovery from an error and is no token either.

A sweep with a cursor collects them once, in source order, so the neighbours of a node
are found by bisection.
-/

namespace LeadingDot

/-- A lexical token. -/
structure Token where
  text : String
  start : Nat
  stop : Nat
  deriving DecidableEq, Repr

/-- The token that a leaf is. -/
def Token.ofLeaf (source : Source) (leaf : Node) : Token :=
  ⟨leaf.text source, leaf.start, leaf.stop⟩

/-- The state of a sweep over the leaves of a tree. -/
structure Sweep where
  cursor : Cursor
  /-- Whether all below the cursor has been passed, so that the sweep is on its way up. -/
  ascending : Bool
  tokens : Array Token

namespace Sweep

/-- The state at the start, at the root of a tree. -/
def ofRoot (root : Node) : Sweep := ⟨.ofRoot root, false, #[]⟩

/-- The tokens with the leaf `node` after them, unless it has no width. -/
def keep (source : Source) (tokens : Array Token) (node : Node) : Array Token :=
  if node.start < node.stop then tokens.push (.ofLeaf source node) else tokens

/-- Leaves what is below the cursor behind: goes on to the next sibling, or back to the
parent if there is none, or ends with the tokens found. -/
def leave (cursor : Cursor) (tokens : Array Token) : Array Token ⊕ Sweep :=
  match cursor.nextSibling? with
  | some next => .inr ⟨next, false, tokens⟩
  | none =>
    match cursor.parent? with
    | some parent => .inr ⟨parent, true, tokens⟩
    | none => .inl tokens

/-- One move of the cursor. Comments are passed over with all below them. -/
def step (source : Source) (sweep : Sweep) : Array Token ⊕ Sweep :=
  if sweep.ascending || sweep.cursor.node.isComment then leave sweep.cursor sweep.tokens
  else match sweep.cursor.firstChild? with
    | some child => .inr ⟨child, false, sweep.tokens⟩
    | none => leave sweep.cursor (keep source sweep.tokens sweep.cursor.node)

/-- An upper bound on the moves to come: each node ahead is entered and left, and each
node above is left. -/
def movesLeft (sweep : Sweep) : Nat :=
  2 * sweep.cursor.ahead + sweep.cursor.depth +
    (if sweep.ascending then 1 else 2 * sweep.cursor.node.size)

theorem movesLeft_leave {cursor : Cursor} {tokens : Array Token} {next : Sweep}
    (h : leave cursor tokens = .inr next) :
    next.movesLeft < 2 * cursor.ahead + cursor.depth + 1 := by
  unfold leave at h
  split at h
  · next sibling hsibling =>
    cases h
    have hahead := Cursor.ahead_nextSibling? hsibling
    have hdepth := Cursor.depth_nextSibling? hsibling
    simp only [movesLeft, Bool.false_eq_true, if_false]
    omega
  · split at h
    · next parent hparent =>
      cases h
      have hahead := Cursor.ahead_parent? hparent
      have hdepth := Cursor.depth_parent? hparent
      simp only [movesLeft, if_true]
      omega
    · cases h

theorem movesLeft_step {source : Source} {sweep next : Sweep}
    (h : sweep.step source = .inr next) : next.movesLeft < sweep.movesLeft := by
  have hsize := Node.size_pos sweep.cursor.node
  have hleast : 2 * sweep.cursor.ahead + sweep.cursor.depth + 1 ≤ sweep.movesLeft := by
    unfold movesLeft
    split <;> omega
  unfold step at h
  split at h
  · exact Nat.lt_of_lt_of_le (movesLeft_leave h) hleast
  · next hentered =>
    simp only [Bool.or_eq_true, not_or, Bool.not_eq_true] at hentered
    split at h
    · next child hchild =>
      cases h
      have hahead := Cursor.ahead_firstChild? hchild
      have hdepth := Cursor.depth_firstChild? hchild
      simp only [movesLeft, hentered.1, Bool.false_eq_true, if_false]
      omega
    · exact Nat.lt_of_lt_of_le (movesLeft_leave h) hleast

/-- Moves on to the end and gives the tokens found. -/
def run (source : Source) (sweep : Sweep) : Array Token :=
  match _h : sweep.step source with
  | .inl tokens => tokens
  | .inr next => run source next
termination_by sweep.movesLeft
decreasing_by exact movesLeft_step _h

end Sweep

/-- The number of elements of `xs` from place `low` that satisfy `p`, plus `low`, if
those that do stand before those that do not; `high` is a place at or beyond the border. -/
def bisect {α : Type} (xs : Array α) (p : α → Bool) (low high : Nat) : Nat :=
  if low < high then
    let middle := (low + high) / 2
    match xs[middle]? with
    | some x => if p x then bisect xs p (middle + 1) high else bisect xs p low middle
    | none => bisect xs p low middle
  else
    low
termination_by high - low

/-- The place of the first element that does not satisfy `p`, where all that do stand
before all that do not. -/
def partitionPoint {α : Type} (xs : Array α) (p : α → Bool) : Nat :=
  bisect xs p 0 xs.size

/-- All tokens of a source, in order. -/
structure TokenStream where
  tokens : Array Token

namespace TokenStream

/-- The tokens of a tree. -/
def ofNode (source : Source) (root : Node) : TokenStream :=
  ⟨(Sweep.ofRoot root).run source⟩

/-- The last token that ends at or before the start of a node. -/
def previous? (stream : TokenStream) (node : Node) : Option Token :=
  match partitionPoint stream.tokens (·.stop ≤ node.start) with
  | 0 => none
  | place + 1 => stream.tokens[place]?

/-- The first token that starts at or after the end of a node. -/
def next? (stream : TokenStream) (node : Node) : Option Token :=
  stream.tokens[partitionPoint stream.tokens (·.start < node.stop)]?

end TokenStream

end LeadingDot
