import LeadingDot.Proofs.Tree.Layout
import LeadingDot.Proofs.Tree.TokenSweep
import Mathlib.Data.List.Lex

/-!
# The tokens around a node

In a well-formed tree the tokens are disjoint and stand in source order, so bisection by
their ends and by their starts cuts them exactly around any node: into the tokens before
it, those at and below it, and those after it.
-/

namespace LeadingDot

/-- The end of bisection is the border between the elements that satisfy `p` and those
that do not, if the border lies in the range that is searched. -/
theorem bisect_eq {α : Type} {p : α → Bool} {xs : Array α} {before after : List α}
    (hxs : xs.toList = before ++ after) (hbefore : ∀ x ∈ before, p x = true)
    (hafter : ∀ x ∈ after, p x = false) {low high : Nat} (hlow : low ≤ before.length)
    (hhigh : before.length ≤ high) (hsize : high ≤ xs.size) :
    bisect xs p low high = before.length := by
  have hlength : before.length + after.length = xs.size := by
    rw [← List.length_append, ← hxs, Array.length_toList]
  fun_induction bisect xs p low high with
  | case1 low high hlt middle x hx hp ih =>
    refine ih ?_ hhigh hsize
    by_contra hbeyond
    have hmem : x ∈ after := by
      rw [← Array.getElem?_toList, hxs, List.getElem?_append_right (by omega)] at hx
      exact List.mem_of_getElem? hx
    simp [hafter x hmem] at hp
  | case2 low high hlt middle x hx hp ih =>
    refine ih hlow ?_ (by omega)
    by_contra hbelow
    have hmem : x ∈ before := by
      rw [← Array.getElem?_toList, hxs, List.getElem?_append_left (by omega)] at hx
      exact List.mem_of_getElem? hx
    exact hp (hbefore x hmem)
  | case3 low high hlt middle hx =>
    have hmiddle : xs.size ≤ middle := Array.getElem?_eq_none_iff.mp hx
    omega
  | case4 low high hle => omega

/-- The partition point of a list is the border between its two parts. -/
theorem partitionPoint_eq {α : Type} {p : α → Bool} {xs : Array α} {before after : List α}
    (hxs : xs.toList = before ++ after) (hbefore : ∀ x ∈ before, p x = true)
    (hafter : ∀ x ∈ after, p x = false) : partitionPoint xs p = before.length := by
  refine bisect_eq hxs hbefore hafter (Nat.zero_le _) ?_ le_rfl
  rw [← Array.length_toList, hxs, List.length_append]
  omega

namespace TokenStream

variable {stream : TokenStream} {node : Node} {before after : List Token}

/-- If a stream is cut where its tokens stop ending before a node, the token before the node is
the last one of the first part. -/
theorem previous?_eq (htokens : stream.tokens.toList = before ++ after)
    (hbefore : ∀ token ∈ before, token.stop ≤ node.start)
    (hafter : ∀ token ∈ after, node.start < token.stop) :
    stream.previous? node = before.getLast? := by
  have hborder := partitionPoint_eq (p := fun token : Token => token.stop ≤ node.start) htokens
    (fun token h => decide_eq_true (hbefore token h))
    (fun token h => decide_eq_false (by have := hafter token h; omega))
  unfold previous?
  rw [hborder, List.getLast?_eq_getElem?]
  split
  · next heq => rw [List.length_eq_zero_iff.mp heq]; rfl
  · next place heq =>
    rw [← Array.getElem?_toList, htokens, List.getElem?_append_left (by omega), heq,
      Nat.succ_sub_one]

/-- If a stream is cut where its tokens start after a node, the token after the node is the
first one of the second part. -/
theorem next?_eq (htokens : stream.tokens.toList = before ++ after)
    (hbefore : ∀ token ∈ before, token.start < node.stop)
    (hafter : ∀ token ∈ after, node.stop ≤ token.start) :
    stream.next? node = after.head? := by
  have hborder := partitionPoint_eq (p := fun token : Token => token.start < node.stop) htokens
    (fun token h => decide_eq_true (hbefore token h))
    (fun token h => decide_eq_false (by have := hafter token h; omega))
  unfold next?
  rw [hborder, ← Array.getElem?_toList, htokens, List.getElem?_append_right le_rfl, Nat.sub_self,
    List.head?_eq_getElem?]

end TokenStream

/-- An ordered list falls into the elements that satisfy `p` and those that do not, if
`p` holds of all that comes before an element of which it holds. -/
private theorem filter_append_filter_not {α : Type} {r : α → α → Prop} {p : α → Bool} {xs : List α}
    (hxs : xs.Pairwise r) (hp : ∀ x y, r x y → p y = true → p x = true) :
    xs.filter p ++ xs.filter (!p ·) = xs := by
  induction xs with
  | nil => rfl
  | cons x xs ih =>
    obtain ⟨hx, hrest⟩ := List.pairwise_cons.mp hxs
    cases hpx : p x with
    | true => simp [hpx, ih hrest]
    | false =>
      have hnone : ∀ y ∈ xs, p y = false := by
        intro y hy
        by_contra hpy
        rw [hp x y (hx y hy) (by simpa using hpy)] at hpx
        cases hpx
      rw [List.filter_cons_of_neg (by simp [hpx]), List.filter_cons_of_pos (by simp [hpx]),
        List.filter_eq_nil_iff.mpr (by simpa using hnone),
        List.filter_eq_self.mpr (by simpa using hnone), List.nil_append]

/-- The addresses below a given one stand together in the order of addresses. -/
private theorem prefix_of_between {address first second : Address} (hle : ¬ first < address)
    (hlt : first < second) (hbelow : address <+: second) : address <+: first := by
  induction address generalizing first second with
  | nil => exact List.nil_prefix
  | cons i address ih =>
    obtain ⟨rest, rfl⟩ := hbelow
    rw [List.cons_append] at hlt
    cases first with
    | nil => exact absurd (List.nil_lt_cons ..) hle
    | cons j first =>
      simp only [List.cons_lt_cons_iff, not_or, not_and] at hle hlt
      obtain ⟨hji, hle⟩ := hle
      rcases hlt with hlt | ⟨rfl, hlt⟩
      · exact absurd hlt hji
      · exact List.cons_prefix_cons.mpr ⟨rfl, ih (hle rfl) hlt (List.prefix_append ..)⟩

namespace Node

/-- Tokens listed for the addresses of their leaves. -/
def TokensAt (source : Source) (root : Node) : List Address → List Token → Prop :=
  List.Forall₂ fun address token =>
    ∃ leaf, root.at? address = some leaf ∧ token = .ofLeaf source leaf

/-- The addresses of the tokens of a tree, in pre-order. -/
def tokenAddresses (source : Source) (root : Node) : List Address :=
  root.addresses.filter fun address => (root.token? source address).isSome

variable {source : Source} {root node leaf : Node} {address place : Address}

/-- The addresses of tokens are those of leaves with a width outside of comments. -/
theorem mem_tokenAddresses :
    place ∈ root.tokenAddresses source ↔ ∃ leaf, root.IsTokenAt place leaf := by
  simp only [tokenAddresses, List.mem_filter, mem_addresses, Option.isSome_iff_exists,
    token?_eq_some_iff]
  constructor
  · rintro ⟨-, token, leaf, hleaf, -⟩
    exact ⟨leaf, hleaf⟩
  · rintro ⟨leaf, hleaf⟩
    exact ⟨⟨leaf, hleaf.at?_eq⟩, _, leaf, hleaf, rfl⟩

/-- The tokens at some of the addresses of a tree. -/
theorem tokensAt_filterMap (source : Source) (root : Node) (places : List Address) :
    root.TokensAt source (places.filter fun place => (root.token? source place).isSome)
      (places.filterMap (root.token? source)) := by
  refine forall₂_filterMap (fun place token htoken => ?_) places
  obtain ⟨leaf, hleaf, htoken⟩ := token?_eq_some_iff.mp htoken
  exact ⟨leaf, hleaf.at?_eq, htoken⟩

/-- A token at an address starts before it ends, and is the text of a leaf there. -/
theorem exists_leaf_of_mem_filterMap {places : List Address} {token : Token}
    (h : token ∈ places.filterMap (root.token? source)) :
    ∃ place ∈ places, ∃ leaf, root.IsTokenAt place leaf ∧ token = .ofLeaf source leaf := by
  obtain ⟨place, hplace, htoken⟩ := List.mem_filterMap.mp h
  exact ⟨place, hplace, token?_eq_some_iff.mp htoken⟩

/-- Nothing is below a leaf. -/
theorem IsTokenAt.eq_of_prefix (h : root.IsTokenAt place leaf)
    (hnode : root.at? address = some node) (hbelow : place <+: address) : place = address := by
  obtain ⟨rest, rfl⟩ := hbelow
  rw [at?_append, h.at?_eq, Option.bind_some] at hnode
  cases rest with
  | nil => rw [List.append_nil]
  | cons i rest => simp [at?, h.1] at hnode

variable (hroot : root.WellFormed) (hnode : root.at? address = some node)
  (hleaf : root.IsTokenAt place leaf)

include hroot hnode hleaf

/-- A token at an address before that of a node ends before the node starts. -/
theorem WellFormed.token_before (hlt : place < address) : leaf.stop ≤ node.start := by
  refine hroot.stop_le_start hleaf.at?_eq hnode hlt fun hbelow => ?_
  exact absurd (hleaf.eq_of_prefix hnode hbelow ▸ hlt) (lt_irrefl _)

/-- A token at or below a node lies in its range. -/
theorem WellFormed.token_inside (hbelow : address <+: place) :
    node.start ≤ leaf.start ∧ leaf.stop ≤ node.stop := by
  obtain ⟨rest, rfl⟩ := hbelow
  have hbelow := hleaf.at?_eq
  rw [at?_append, hnode, Option.bind_some] at hbelow
  exact (hroot.at? hnode).nested hbelow

/-- A token at an address after that of a node, and not below the node, starts after it ends. -/
theorem WellFormed.token_after (hlt : address < place) (hbeside : ¬ address <+: place) :
    node.stop ≤ leaf.start :=
  hroot.stop_le_start hnode hleaf.at?_eq hlt hbeside

omit hroot hnode hleaf

theorem not_lt_of_prefix (h : address <+: place) : ¬ place < address := by
  obtain ⟨rest, rfl⟩ := h
  exact List.le_append_left

/-- The addresses of a tree are those before a given one, those at and below it, and those
after it. -/
theorem addresses_cut (root : Node) (address : Address) :
    root.addresses.filter (· < address) ++ root.addresses.filter (address <+: ·) ++
      root.addresses.filter (fun place => ¬ (place < address ∨ address <+: place)) =
    root.addresses := by
  have hupTo := filter_append_filter_not
    (p := fun place => decide (place < address ∨ address <+: place)) root.pairwise_addresses
    (by
      intro x y hlt hy
      by_cases hx : x < address
      · simp [hx]
      · rcases of_decide_eq_true hy with hy | hy
        · exact absurd (hlt.trans hy) hx
        · simp [prefix_of_between hx hlt hy])
  have hbefore := filter_append_filter_not (p := fun place => decide (place < address))
    (root.pairwise_addresses.filter fun place => decide (place < address ∨ address <+: place))
    fun x y hlt hy => decide_eq_true (hlt.trans (of_decide_eq_true hy))
  rw [List.filter_filter, List.filter_filter] at hbefore
  have hfirst : (fun place => decide (place < address) &&
      decide (place < address ∨ address <+: place)) = fun place => decide (place < address) := by
    funext place
    by_cases hlt : place < address <;> simp [hlt]
  have hsecond : (fun place => !decide (place < address) &&
      decide (place < address ∨ address <+: place)) = fun place => decide (address <+: place) := by
    funext place
    by_cases hbelow : address <+: place
    · simp [hbelow, not_lt_of_prefix hbelow]
    · by_cases hlt : place < address <;> simp [hlt, hbelow]
  rw [hfirst, hsecond] at hbefore
  rw [hbefore]
  simpa only [decide_not] using hupTo

end Node

namespace TokenStream

/-- A stream is cut around a node: into the tokens that end before it, of which the last
one is the token before the node, some tokens, and those that start after it, of which the
first one is the token after the node. -/
def CutAround (stream : TokenStream) (node : Node) (inside : List Token) : Prop :=
  ∃ before after, stream.tokens.toList = before ++ inside ++ after ∧
    (∀ token ∈ before, token.stop ≤ node.start) ∧ (∀ token ∈ after, node.stop ≤ token.start) ∧
    stream.previous? node = before.getLast? ∧ stream.next? node = after.head?

/-- The stream of a well-formed tree is cut around every node into the tokens before its
address, those at and below it, and those after it. -/
theorem cutAround {source : Source} {root node : Node} {address : Address}
    (hroot : root.WellFormed) (hnode : root.at? address = some node) :
    (ofNode source root).CutAround node
      ((root.addresses.filter (address <+: ·)).filterMap (root.token? source)) := by
  have htokens := toList_ofNode source root
  rw [Node.tokens, ← root.addresses_cut address, List.filterMap_append, List.filterMap_append]
    at htokens
  have hbefore : ∀ token ∈ (root.addresses.filter (· < address)).filterMap (root.token? source),
      token.start < token.stop ∧ token.stop ≤ node.start := by
    intro token htoken
    obtain ⟨place, hplace, leaf, hleaf, rfl⟩ := Node.exists_leaf_of_mem_filterMap htoken
    have hlt := of_decide_eq_true (List.mem_filter.mp hplace).2
    exact ⟨hleaf.2.1, hroot.token_before hnode hleaf hlt⟩
  have hinside : ∀ token ∈ (root.addresses.filter (address <+: ·)).filterMap (root.token? source),
      token.start < token.stop ∧ node.start ≤ token.start ∧ token.stop ≤ node.stop := by
    intro token htoken
    obtain ⟨place, hplace, leaf, hleaf, rfl⟩ := Node.exists_leaf_of_mem_filterMap htoken
    have hbelow := of_decide_eq_true (List.mem_filter.mp hplace).2
    exact ⟨hleaf.2.1, hroot.token_inside hnode hleaf hbelow⟩
  have hafter : ∀ token ∈ (root.addresses.filter fun place =>
      ¬ (place < address ∨ address <+: place)).filterMap (root.token? source),
      token.start < token.stop ∧ node.stop ≤ token.start := by
    intro token htoken
    obtain ⟨place, hplace, leaf, hleaf, rfl⟩ := Node.exists_leaf_of_mem_filterMap htoken
    obtain ⟨hle, hbeside⟩ := not_or.mp (of_decide_eq_true (List.mem_filter.mp hplace).2)
    have hne : address ≠ place := fun heq => hbeside (heq ▸ List.prefix_rfl)
    exact ⟨hleaf.2.1, hroot.token_after hnode hleaf (lt_of_le_of_ne (not_lt.mp hle) hne) hbeside⟩
  have hwide := (hroot.at? hnode).laidOut.1
  refine ⟨_, _, htokens, fun token h => (hbefore token h).2, fun token h => (hafter token h).2, ?_,
    ?_⟩
  · refine previous?_eq (List.append_assoc .. ▸ htokens) (fun token h => (hbefore token h).2) ?_
    intro token h
    rcases List.mem_append.mp h with h | h
    · have := hinside token h
      omega
    · have := hafter token h
      omega
  · refine next?_eq htokens ?_ (fun token h => (hafter token h).2)
    intro token h
    rcases List.mem_append.mp h with h | h
    · have := hbefore token h
      omega
    · have := hinside token h
      omega

/-- What a stream of tokens is to the tree that it was made of: `places` are the addresses
of its tokens. -/
structure Describes (stream : TokenStream) (source : Source) (root : Node)
    (places : List Address) : Prop where
  /-- The places stand in pre-order, none of them twice. -/
  inOrder : places.Pairwise (· < ·)
  /-- They are those of the leaves with a width outside of comments. -/
  mem_places : ∀ place, place ∈ places ↔ ∃ leaf, root.IsTokenAt place leaf
  /-- The tokens are those leaves. -/
  tokensAt : root.TokensAt source places stream.tokens.toList
  /-- Each token ends before the later ones start. -/
  disjoint : stream.tokens.toList.Pairwise fun token later => token.stop ≤ later.start
  /-- No token is empty. -/
  wide : ∀ token ∈ stream.tokens.toList, token.start < token.stop
  /-- Around every node the stream is cut into what comes before it, the tokens at and
  below it, and what comes after it. -/
  cut : ∀ address node, root.at? address = some node →
    ∃ inside, root.TokensAt source (places.filter (address <+: ·)) inside ∧
      stream.CutAround node inside

/-- The tokens of a well-formed tree are its leaves with a width outside of comments, in
source order, and every node, of whatever kind and width, is found exactly between its
neighbours in the stream. -/
theorem exists_describes (source : Source) (root : Node) (hroot : root.WellFormed) :
    ∃ places, (ofNode source root).Describes source root places := by
  have htokens := toList_ofNode source root
  refine ⟨root.tokenAddresses source, root.pairwise_addresses.filter _,
    fun place => Node.mem_tokenAddresses, ?_, ?_, ?_, ?_⟩
  · rw [htokens]
    exact Node.tokensAt_filterMap source root root.addresses
  · rw [htokens]
    refine root.pairwise_addresses.filterMap _ fun place later hlt token htoken other hother => ?_
    obtain ⟨leaf, hleaf, rfl⟩ := Node.token?_eq_some_iff.mp htoken
    obtain ⟨next, hnext, rfl⟩ := Node.token?_eq_some_iff.mp hother
    exact hroot.token_before hnext.at?_eq hleaf hlt
  · intro token htoken
    rw [htokens] at htoken
    obtain ⟨place, -, leaf, hleaf, rfl⟩ := Node.exists_leaf_of_mem_filterMap htoken
    exact hleaf.2.1
  · intro address node hnode
    refine ⟨_, ?_, cutAround hroot hnode⟩
    rw [Node.tokenAddresses, List.filter_filter]
    simpa only [List.filter_filter, Bool.and_comm] using
      Node.tokensAt_filterMap source root (root.addresses.filter (address <+: ·))

/-- The tree of a call that breaks off after a comment and the opening bracket, with the
closing bracket that the parser put in. -/
def brokenCall : Node :=
  ⟨"call_expression", 0, 7, none,
    [⟨"simple_identifier", 0, 1, none, []⟩,
     ⟨"multiline_comment", 1, 6, none, [⟨"comment_text", 3, 4, none, []⟩]⟩,
     ⟨"(", 6, 7, none, []⟩,
     ⟨")", 7, 7, none, []⟩]⟩

/-- The tokens of a call that breaks off, cut around the bracket of no width too. -/
theorem exists_describes_brokenCall :
    brokenCall.WellFormed ∧ brokenCall.at? [3] = some ⟨")", 7, 7, none, []⟩ ∧
      ∃ places, (ofNode ⟨"f/*c*/(".toUTF8.data⟩ brokenCall).Describes
        ⟨"f/*c*/(".toUTF8.data⟩ brokenCall places :=
  ⟨by decide, rfl, exists_describes _ brokenCall (by decide)⟩

end TokenStream

end LeadingDot
