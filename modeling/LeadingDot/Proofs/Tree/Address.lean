import LeadingDot.Tree.Node
import Mathlib.Data.List.Basic

/-!
# Addresses of nodes

Equal nodes can hang at several places of a tree, so what is said of the nodes of a tree
is said of their addresses: the numbers of the children that lead to a node from the root.
The lexicographic order of addresses is the pre-order of the tree. The listing of all
addresses is strictly increasing in it, so a pass over the listing meets every node once.
-/

namespace LeadingDot

/-- What a partial function finds in a list goes along with the elements where it finds
something. -/
theorem forall₂_filterMap {α β : Type} {f : α → Option β} {r : α → β → Prop}
    (h : ∀ x y, f x = some y → r x y) (xs : List α) :
    List.Forall₂ r (xs.filter fun x => (f x).isSome) (xs.filterMap f) := by
  induction xs with
  | nil => exact List.Forall₂.nil
  | cons x xs ih =>
    cases hx : f x with
    | none => simpa [hx] using ih
    | some y =>
      rw [List.filter_cons_of_pos (by simp [hx]), List.filterMap_cons_some hx]
      exact List.Forall₂.cons (h x y hx) ih

/-- Numbers that nothing depends on do not matter. -/
theorem flatMap_zipIdx_fst {α β : Type} (xs : List α) (f : α → List β) :
    (xs.zipIdx.flatMap fun x => f x.1) = xs.flatMap f := by
  rw [← List.flatMap_map (f := Prod.fst) (g := f), List.zipIdx_map_fst]

/-- The numbers of the children that lead from a node to one below it. -/
abbrev Address := List Nat

namespace Node

/-- Induction over a tree, from the children to the node. -/
theorem induction {motive : Node → Prop}
    (step : ∀ node : Node, (∀ child ∈ node.children, motive child) → motive node)
    (node : Node) : motive node :=
  @Node.rec motive (fun nodes => ∀ child ∈ nodes, motive child)
    (fun kind start stop field children ih => step ⟨kind, start, stop, field, children⟩ ih)
    (fun _ h => absurd h List.not_mem_nil)
    (fun _ _ hhead htail => List.forall_mem_cons.mpr ⟨hhead, htail⟩) node

/-- The node at an address. -/
def at? (node : Node) : Address → Option Node
  | [] => some node
  | i :: address => (node.children[i]?).bind fun child => child.at? address

/-- The nodes on the way to an address, from the first one to the node there. -/
def trail? (node : Node) : Address → Option (List Node)
  | [] => some [node]
  | i :: address =>
    (node.children[i]?).bind fun child => (child.trail? address).map (node :: ·)

mutual

/-- The addresses of a node and of all nodes below it, in pre-order. -/
def addresses : Node → List Address
  | ⟨_, _, _, _, children⟩ => [] :: addressesFrom 0 children

/-- The addresses of several siblings, the first of which has the number `i`, and of all
nodes below them. -/
def addressesFrom (i : Nat) : List Node → List Address
  | [] => []
  | node :: nodes => (addresses node).map (i :: ·) ++ addressesFrom (i + 1) nodes

end

@[simp] theorem at?_nil (node : Node) : node.at? [] = some node := rfl

@[simp] theorem at?_cons (node : Node) (i : Nat) (address : Address) :
    node.at? (i :: address) = (node.children[i]?).bind fun child => child.at? address := rfl

/-- An address leads on from the node at its start. -/
theorem at?_append (node : Node) (address rest : Address) :
    node.at? (address ++ rest) = (node.at? address).bind fun below => below.at? rest := by
  induction address generalizing node with
  | nil => rfl
  | cons i address ih =>
    simp only [List.cons_append, at?_cons, Option.bind_assoc]
    congr 1
    funext child
    exact ih child

/-- A trail starts at the node that it is read from. -/
theorem eq_cons_of_trail? {node : Node} {address : Address} {trail : List Node}
    (h : node.trail? address = some trail) : ∃ rest, trail = node :: rest := by
  cases address with
  | nil =>
    cases h
    exact ⟨[], rfl⟩
  | cons i address =>
    obtain ⟨child, -, h⟩ := Option.bind_eq_some_iff.mp h
    obtain ⟨rest, -, rfl⟩ := Option.map_eq_some_iff.mp h
    exact ⟨rest, rfl⟩

theorem trail?_ne_nil {node : Node} {address : Address} {trail : List Node}
    (h : node.trail? address = some trail) : trail ≠ [] := by
  obtain ⟨rest, rfl⟩ := eq_cons_of_trail? h
  exact List.cons_ne_nil _ _

/-- The trail to an address ends at the node there. -/
theorem getLast?_of_trail? {node : Node} {address : Address} {trail : List Node}
    (h : node.trail? address = some trail) : trail.getLast? = node.at? address := by
  induction address generalizing node trail with
  | nil =>
    cases h
    rfl
  | cons i address ih =>
    obtain ⟨child, hchild, h⟩ := Option.bind_eq_some_iff.mp h
    obtain ⟨rest, hrest, rfl⟩ := Option.map_eq_some_iff.mp h
    rw [at?_cons, hchild, Option.bind_some, ← ih hrest,
      List.getLast?_cons_of_ne_nil (trail?_ne_nil hrest)]

theorem addressesFrom_eq_flatMap (i : Nat) (nodes : List Node) :
    addressesFrom i nodes =
      (nodes.zipIdx i).flatMap fun node => node.1.addresses.map (node.2 :: ·) := by
  induction nodes generalizing i with
  | nil => rfl
  | cons node nodes ih => rw [addressesFrom, ih, List.zipIdx_cons, List.flatMap_cons]

/-- A node has its own address, and those of its children behind their numbers. -/
theorem addresses_eq (node : Node) :
    node.addresses =
      [] :: node.children.zipIdx.flatMap fun child => child.1.addresses.map (child.2 :: ·) := by
  obtain ⟨kind, start, stop, field, children⟩ := node
  rw [addresses, addressesFrom_eq_flatMap]

/-- The addresses of a node are those at which there is a node. -/
theorem mem_addresses {node : Node} {address : Address} :
    address ∈ node.addresses ↔ ∃ below, node.at? address = some below := by
  rw [addresses_eq]
  induction address generalizing node with
  | nil => simp
  | cons i address ih =>
    simp only [List.mem_cons, reduceCtorEq, false_or, List.mem_flatMap, List.mem_map,
      List.cons.injEq, at?_cons, Option.bind_eq_some_iff]
    constructor
    · rintro ⟨⟨child, j⟩, hchild, _, hmem, rfl, rfl⟩
      rw [addresses_eq] at hmem
      obtain ⟨below, hbelow⟩ := ih.mp hmem
      exact ⟨below, child, List.mem_zipIdx_iff_getElem?.mp hchild, hbelow⟩
    · rintro ⟨below, child, hchild, hbelow⟩
      exact ⟨(child, i), List.mem_zipIdx_iff_getElem?.mpr hchild, address,
        addresses_eq child ▸ ih.mpr ⟨below, hbelow⟩, rfl, rfl⟩

/-- The addresses are listed in pre-order, and none of them twice. -/
theorem pairwise_addresses (node : Node) : node.addresses.Pairwise (· < ·) := by
  induction node using Node.induction with
  | step node ih =>
    rw [addresses_eq, List.pairwise_cons]
    constructor
    · intro address hmem
      obtain ⟨child, -, hmem⟩ := List.mem_flatMap.mp hmem
      obtain ⟨rest, -, rfl⟩ := List.mem_map.mp hmem
      exact List.nil_lt_cons ..
    · rw [List.pairwise_flatMap]
      constructor
      · rintro ⟨child, i⟩ hchild
        rw [List.pairwise_map]
        refine (ih child ?_).imp fun hlt => List.cons_lt_cons_iff.mpr (Or.inr ⟨rfl, hlt⟩)
        exact List.mem_of_getElem? (List.mem_zipIdx_iff_getElem?.mp hchild)
      · have hnumbers : (node.children.zipIdx.map Prod.snd).Pairwise (· < ·) := by
          rw [List.zipIdx_map_snd]
          exact List.pairwise_lt_range'
        refine (List.pairwise_map.mp hnumbers).imp ?_
        rintro ⟨first, i⟩ ⟨second, j⟩ hlt _ hfirst _ hsecond
        obtain ⟨rest, -, rfl⟩ := List.mem_map.mp hfirst
        obtain ⟨rest', -, rfl⟩ := List.mem_map.mp hsecond
        exact List.cons_lt_cons_iff.mpr (Or.inl hlt)

/-- What a partial function finds at the addresses of a node: first what it finds at the
node itself, then what it finds below each child. -/
theorem filterMap_addresses {α : Type} (node : Node) (f : Address → Option α) :
    node.addresses.filterMap f =
      (f []).toList ++ node.children.zipIdx.flatMap fun child =>
        child.1.addresses.filterMap fun address => f (child.2 :: address) := by
  rw [addresses_eq, List.filterMap_cons, List.filterMap_flatMap]
  simp only [List.filterMap_map]
  cases f [] <;> rfl

/-- If what is found below a child does not depend on the number of the child, what is found
below a node is that of its children one after the other. -/
theorem filterMap_addresses_of_children {α : Type} {node : Node} {f : Address → Option α}
    {g : Node → Address → Option α}
    (h : ∀ i child, node.children[i]? = some child →
      ∀ address, f (i :: address) = g child address) :
    node.addresses.filterMap f =
      (f []).toList ++ node.children.flatMap fun child => child.addresses.filterMap (g child) := by
  have hbelow : ∀ child ∈ node.children.zipIdx,
      (child.1.addresses.filterMap fun address => f (child.2 :: address)) =
        child.1.addresses.filterMap (g child.1) := by
    rintro ⟨child, i⟩ hmem
    have hchild : node.children[i]? = some child := List.mem_zipIdx_iff_getElem?.mp hmem
    rw [funext (h i child hchild)]
  rw [filterMap_addresses, List.flatMap_congr hbelow,
    flatMap_zipIdx_fst node.children fun child => child.addresses.filterMap (g child)]

/-- The pre-order of several trees is that of one after the other. -/
theorem preorderAll_eq_flatMap (nodes : List Node) :
    preorderAll nodes = nodes.flatMap preorder := by
  induction nodes with
  | nil => rfl
  | cons node nodes ih => rw [preorderAll, ih, List.flatMap_cons]

/-- The nodes at the addresses are those of the tree, in the same order. -/
theorem filterMap_at?_addresses (node : Node) :
    node.addresses.filterMap node.at? = node.preorder := by
  induction node using Node.induction with
  | step node ih =>
    have hbelow : ∀ i child, node.children[i]? = some child →
        ∀ address, node.at? (i :: address) = child.at? address := by
      intro i child hchild address
      rw [at?_cons, hchild, Option.bind_some]
    have hpreorder : node.preorder = node :: node.children.flatMap preorder := by
      obtain ⟨kind, start, stop, field, children⟩ := node
      rw [preorder, preorderAll_eq_flatMap]
    rw [filterMap_addresses_of_children hbelow, List.flatMap_congr ih, hpreorder]
    rfl

/-- The nodes of a tree are those at its addresses. -/
theorem mem_preorder {node below : Node} :
    below ∈ node.preorder ↔ ∃ address, node.at? address = some below := by
  rw [← filterMap_at?_addresses, List.mem_filterMap]
  constructor
  · rintro ⟨address, -, h⟩
    exact ⟨address, h⟩
  · rintro ⟨address, h⟩
    exact ⟨address, mem_addresses.mpr ⟨below, h⟩, h⟩

end Node

end LeadingDot
