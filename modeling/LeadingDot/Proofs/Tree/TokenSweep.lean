import LeadingDot.Proofs.Tree.Address
import LeadingDot.Tree.Token
import Mathlib.Data.List.Basic

/-!
# What a sweep collects

The tokens that a sweep has collected, together with those that lie ahead of its cursor,
do not change while it moves. At the end nothing lies ahead, so the sweep collects the
tokens at all addresses of the tree, in pre-order.
-/

namespace LeadingDot

namespace Node

/-- The token at an address: the leaf there, if it has a width and neither it nor a node
above it is a comment. -/
def token? (source : Source) (node : Node) : Address → Option Token
  | [] =>
    if !node.isComment && node.children.isEmpty && node.start < node.stop then
      some (.ofLeaf source node)
    else none
  | i :: address =>
    if node.isComment then none
    else (node.children[i]?).bind fun child => child.token? source address

/-- The node at an address is a token: a leaf with a width, which is no comment and has no
comment above it. -/
def IsTokenAt (root : Node) (address : Address) (leaf : Node) : Prop :=
  leaf.children = [] ∧ leaf.start < leaf.stop ∧
    ∃ trail, root.trail? address = some trail ∧ trail.getLast? = some leaf ∧
      ∀ node ∈ trail, node.isComment = false

variable {source : Source} {root node leaf : Node} {address : Address} {token : Token}

/-- A token is the node at its address. -/
theorem IsTokenAt.at?_eq (h : root.IsTokenAt address leaf) : root.at? address = some leaf := by
  obtain ⟨-, -, trail, htrail, hlast, -⟩ := h
  rw [← getLast?_of_trail? htrail, hlast]

/-- A token below a node that is no comment is a token below one of the children. -/
theorem isTokenAt_cons {i : Nat} : root.IsTokenAt (i :: address) leaf ↔
    root.isComment = false ∧ ∃ child, root.children[i]? = some child ∧
      child.IsTokenAt address leaf := by
  constructor
  · rintro ⟨hleaf, hwide, trail, htrail, hlast, hcode⟩
    obtain ⟨child, hchild, htrail⟩ := Option.bind_eq_some_iff.mp htrail
    obtain ⟨rest, hrest, rfl⟩ := Option.map_eq_some_iff.mp htrail
    obtain ⟨hroot, hbelow⟩ := List.forall_mem_cons.mp hcode
    refine ⟨hroot, child, hchild, hleaf, hwide, rest, hrest, ?_, hbelow⟩
    rwa [List.getLast?_cons_of_ne_nil (trail?_ne_nil hrest)] at hlast
  · rintro ⟨hroot, child, hchild, hleaf, hwide, rest, hrest, hlast, hbelow⟩
    refine ⟨hleaf, hwide, root :: rest, ?_, ?_, List.forall_mem_cons.mpr ⟨hroot, hbelow⟩⟩
    · rw [trail?, hchild, Option.bind_some, hrest, Option.map_some]
    · rw [List.getLast?_cons_of_ne_nil (trail?_ne_nil hrest), hlast]

/-- The token at an address is the leaf there. -/
theorem token?_eq_some_iff : root.token? source address = some token ↔
    ∃ leaf, root.IsTokenAt address leaf ∧ token = .ofLeaf source leaf := by
  induction address generalizing root with
  | nil =>
    simp only [token?, IsTokenAt, trail?, Option.some.injEq, exists_eq_left']
    constructor
    · intro h
      split at h
      · next hself =>
        simp only [Bool.and_eq_true, Bool.not_eq_true', List.isEmpty_iff,
          decide_eq_true_eq] at hself
        exact ⟨root, ⟨hself.1.2, hself.2, by simp, by simpa using hself.1.1⟩,
          (Option.some.inj h).symm⟩
      · cases h
    · rintro ⟨leaf, ⟨hleaf, hwide, hlast, hcode⟩, rfl⟩
      obtain rfl : root = leaf := by simpa using hlast
      simp [hleaf, hwide, hcode root (by simp)]
  | cons i address ih =>
    simp only [token?, isTokenAt_cons]
    constructor
    · intro h
      split at h
      · cases h
      · next hcode =>
        obtain ⟨child, hchild, h⟩ := Option.bind_eq_some_iff.mp h
        obtain ⟨leaf, hleaf, rfl⟩ := ih.mp h
        exact ⟨leaf, ⟨by simpa using hcode, child, hchild, hleaf⟩, rfl⟩
    · rintro ⟨leaf, ⟨hcode, child, hchild, hleaf⟩, rfl⟩
      simp only [hcode, Bool.false_eq_true, if_false, hchild, Option.bind_some]
      exact ih.mpr ⟨leaf, hleaf, rfl⟩

/-- The tokens of a node and of all nodes below it, in pre-order. -/
def tokens (source : Source) (node : Node) : List Token :=
  node.addresses.filterMap (node.token? source)

/-- There are no tokens in a comment. -/
theorem tokens_of_isComment {source : Source} {node : Node} (h : node.isComment = true) :
    node.tokens source = [] := by
  rw [tokens, List.filterMap_eq_nil_iff]
  intro address _
  cases address <;> simp [token?, h]

/-- A leaf outside of comments is a token if it has a width. -/
theorem tokens_of_leaf {source : Source} {node : Node} (h : node.isComment = false)
    (hleaf : node.children = []) :
    node.tokens source =
      if node.start < node.stop then [Token.ofLeaf source node] else [] := by
  rw [tokens, filterMap_addresses, hleaf]
  by_cases hwide : node.start < node.stop <;> simp [token?, h, hleaf, hwide]

/-- The tokens of a node with children are those of its children. -/
theorem tokens_of_inner {source : Source} {node : Node} (h : node.isComment = false)
    (hinner : node.children ≠ []) :
    node.tokens source = node.children.flatMap (tokens source) := by
  have hself : node.token? source [] = none := by simp [token?, hinner]
  have hbelow : ∀ i child, node.children[i]? = some child →
      ∀ address, node.token? source (i :: address) = child.token? source address := by
    intro i child hchild address
    simp [token?, h, hchild]
  rw [tokens, filterMap_addresses_of_children hbelow, hself]
  rfl

end Node

namespace Sweep

/-- The tokens that lie ahead of the node at a cursor and all below it. -/
def beyond (source : Source) (cursor : Cursor) : List Token :=
  cursor.later.flatMap (Node.tokens source) ++
    cursor.above.flatMap fun up => up.2.flatMap (Node.tokens source)

/-- The tokens that a sweep has still to collect. -/
def pending (source : Source) (sweep : Sweep) : List Token :=
  (if sweep.ascending then [] else sweep.cursor.node.tokens source) ++
    beyond source sweep.cursor

/-- The tokens that are there when all moves have been made. -/
def total (source : Source) (sweep : Sweep) : List Token :=
  sweep.tokens.toList ++ sweep.pending source

variable {source : Source} {sweep : Sweep} {cursor : Cursor} {tokens : Array Token}

/-- When a sweep leaves a node, it has still to collect what lies beyond it. -/
theorem total_leave : (leave cursor tokens).elim Array.toList (total source) =
    tokens.toList ++ beyond source cursor := by
  unfold leave
  split
  · next sibling hsibling =>
    obtain ⟨hlater, habove⟩ := Cursor.later_of_nextSibling? hsibling
    simp [total, pending, beyond, hlater, habove]
  · next hlast =>
    have hlater := Cursor.later_of_nextSibling?_eq_none hlast
    split
    · next parent hparent =>
      simp [total, pending, beyond, hlater, Cursor.above_of_parent? hparent]
    · next hroot => simp [beyond, hlater, Cursor.above_of_parent?_eq_none hroot]

/-- A leaf adds its own tokens to those collected. -/
theorem toList_keep {node : Node} (h : node.isComment = false) (hleaf : node.children = []) :
    (keep source tokens node).toList = tokens.toList ++ node.tokens source := by
  rw [Node.tokens_of_leaf h hleaf]
  unfold keep
  split <;> simp

/-- A move only takes tokens from those ahead to those collected. -/
theorem total_step (source : Source) (sweep : Sweep) :
    (sweep.step source).elim Array.toList (total source) = sweep.total source := by
  unfold step
  split
  · next hpassed =>
    -- On the way up, and at a comment, nothing at or below the node is left to collect.
    have hnone : (if sweep.ascending then [] else sweep.cursor.node.tokens source) = [] := by
      split
      · rfl
      · next hdown =>
        exact Node.tokens_of_isComment ((Bool.or_eq_true_iff.mp hpassed).resolve_left hdown)
    rw [total_leave, total, pending, hnone, List.nil_append]
  · next hentered =>
    simp only [Bool.or_eq_true, not_or, Bool.not_eq_true] at hentered
    obtain ⟨hdown, hcode⟩ := hentered
    split
    · next child hchild =>
      obtain ⟨hchildren, habove⟩ := Cursor.children_of_firstChild? hchild
      rw [Sum.elim_inr, total, total, pending, pending, hdown,
        Node.tokens_of_inner hcode (by simp [hchildren]), hchildren]
      simp [beyond, habove]
    · next hleaf =>
      rw [total_leave, toList_keep hcode (Cursor.children_of_firstChild?_eq_none hleaf), total,
        pending, hdown]
      simp

/-- A sweep collects its tokens and those ahead of it. -/
theorem toList_run (source : Source) (sweep : Sweep) :
    (sweep.run source).toList = sweep.total source := by
  fun_induction run source sweep with
  | case1 sweep tokens hstep => rw [← total_step, hstep, Sum.elim_inl]
  | case2 sweep next hstep ih => rw [ih, ← total_step source sweep, hstep, Sum.elim_inr]

end Sweep

/-- The tokens of a tree are those at its addresses, in pre-order. -/
theorem TokenStream.toList_ofNode (source : Source) (root : Node) :
    (TokenStream.ofNode source root).tokens.toList = root.tokens source := by
  simp [ofNode, Sweep.toList_run, Sweep.total, Sweep.pending, Sweep.beyond, Sweep.ofRoot,
    Cursor.ofRoot]

end LeadingDot
