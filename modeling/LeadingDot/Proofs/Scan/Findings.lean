import LeadingDot.Proofs.Scan.Walk
import Mathlib.Data.List.Chain
import Mathlib.Data.List.Lex

/-!
# What is reported

A scan carries the state of the scope down the tree as it goes. Read from a node upwards,
the state is decided by the nodes on the way from the root: none of them may be left out,
each has to be visible below the one before it, and the last of them that opens a scope
has to open a checked one. The scan reports exactly the identifiers for which this holds
and which stand where a bare call to a modifier stands, each once and in pre-order.
-/

namespace LeadingDot.Scan

/-- Whether a node opens a scope, checked or not. -/
def opensScope (source : Source) (node : Node) : Bool :=
  Scope.classify source node == .enterChecked || Scope.classify source node == .enterOpaque

/-- Whether the scope at the end of a trail is checked: as the last node opens it that
opens one, or else as it is around the trail. -/
def scopeAt (source : Source) (around : Bool) (trail : List Node) : Bool :=
  match (trail.filter (opensScope source)).getLast? with
  | some node => Scope.classify source node == .enterChecked
  | none => around

variable {source : Source} {around checked : Bool} {node root child : Node} {trail : List Node}
  {address : Address}

/-- A node that opens a scope decides on it for all that stand below, up to the next one that
opens a scope. -/
theorem scopeAt_cons_of_opensScope (h : opensScope source node = true) :
    scopeAt source around (node :: trail) =
      scopeAt source (Scope.classify source node == .enterChecked) trail := by
  rw [scopeAt, scopeAt, List.filter_cons_of_pos h, List.getLast?_cons]
  cases (trail.filter (opensScope source)).getLast? <;> rfl

/-- A node on the way hands on the scope below it. -/
theorem scopeAt_cons (h : enter around (Scope.classify source node) = some checked) :
    scopeAt source around (node :: trail) = scopeAt source checked trail := by
  cases heffect : Scope.classify source node with
  | prune =>
    rw [heffect] at h
    cases h
  | passThrough =>
    rw [heffect] at h
    cases h
    rw [scopeAt, scopeAt, List.filter_cons_of_neg (by simp [opensScope, heffect])]
  | enterOpaque =>
    rw [heffect] at h
    cases h
    rw [scopeAt_cons_of_opensScope (by simp [opensScope, heffect]), heffect]
    rfl
  | enterChecked =>
    rw [heffect] at h
    cases h
    rw [scopeAt_cons_of_opensScope (by simp [opensScope, heffect]), heffect]
    rfl

/-- Only what is to be left out is not entered. -/
theorem enter_eq_none_iff (around : Bool) : enter around (Scope.classify source node) = none ↔
    Scope.classify source node = .prune := by
  cases Scope.classify source node <;> simp [enter]

theorem ne_prune_of_enter (h : enter around (Scope.classify source node) = some checked) :
    Scope.classify source node ≠ .prune := by
  rw [Ne, ← enter_eq_none_iff around, h]
  exact Option.some_ne_none _

/-- A node that is not left out hands on some scope. -/
theorem exists_enter (around : Bool) (h : Scope.classify source node ≠ .prune) :
    ∃ checked, enter around (Scope.classify source node) = some checked :=
  Option.ne_none_iff_exists'.mp (mt (enter_eq_none_iff around).mp h)

/-- The node at an address refers to something: it has a parent, which is not of a kind
that names its identifiers, and the node is not the one that names the parent. -/
def IsReferenceAt (root : Node) (address : Address) : Prop :=
  ∃ above i parent, address = above ++ [i] ∧ root.at? above = some parent ∧
    parent.kind ∉ namingKinds ∧ parent.fieldIndex? "name" ≠ some i

/-- An identifier that hangs in the first node refers to something as its site says. Further
down the first node does not matter. -/
theorem isReferenceAt_cons {i : Nat} (hchild : root.children[i]? = some child) :
    IsReferenceAt root (i :: address) ↔
      (address = [] ∧ (Frame.child root checked child i).site.isReference = true) ∨
        IsReferenceAt child address := by
  constructor
  · rintro ⟨_ | ⟨j, above⟩, k, parent, haddress, hparent, hkind, hname⟩
    · obtain ⟨rfl, rfl⟩ := List.cons.inj haddress
      cases hparent
      exact Or.inl ⟨rfl, by simp [Frame.child, Site.isReference, hkind, hname]⟩
    · obtain ⟨rfl, rfl⟩ := List.cons.inj haddress
      rw [Node.at?_cons, hchild, Option.bind_some] at hparent
      exact Or.inr ⟨above, k, parent, rfl, hparent, hkind, hname⟩
  · rintro (⟨rfl, hsite⟩ | ⟨above, k, parent, rfl, hparent, hkind, hname⟩)
    · refine ⟨[], i, root, rfl, rfl, ?_⟩
      simpa [Frame.child, Site.isReference] using hsite
    · refine ⟨i :: above, k, parent, rfl, ?_, hkind, hname⟩
      rw [Node.at?_cons, hchild, Option.bind_some, hparent]

/-- A trail on which a walk passes from the first node to the last one. -/
def Passes (source : Source) (trail : List Node) : Prop :=
  (∀ node ∈ trail, Scope.classify source node ≠ .prune) ∧
    trail.IsChain fun parent child => child ∈ Scope.visibleChildren parent

theorem mem_visibleChildren {i : Nat} (hchild : root.children[i]? = some child) :
    child ∈ Scope.visibleChildren root ↔ Scope.hides root child = false := by
  simp [Scope.visibleChildren, List.mem_of_getElem? hchild]

/-- A walk passes along a single node if it does not leave it out. -/
theorem passes_singleton : Passes source [node] ↔ Scope.classify source node ≠ .prune := by
  simp [Passes]

/-- A walk passes along a longer trail if it enters the first node, from which the second
one is visible, and passes along the rest. -/
theorem passes_cons {rest : List Node} (hrest : child.trail? address = some rest) :
    Passes source (node :: rest) ↔
      Scope.classify source node ≠ .prune ∧ child ∈ Scope.visibleChildren node ∧
        Passes source rest := by
  obtain ⟨below, rfl⟩ := Node.eq_cons_of_trail? hrest
  simp only [Passes, List.forall_mem_cons, List.isChain_cons_cons]
  tauto

/-- What is left to ask of a node that the walk reaches in a checked scope. -/
def IsNamedBareCall (context : Context) (node : Node) : Prop :=
  node.kind = "simple_identifier" ∧ context.catalog.contains (node.text context.source) = true ∧
    isBareCall context node = true

/-- A node is reported by its place in the parent and by what it is itself. -/
theorem isReported_iff {context : Context} {site : Site} :
    isReported context site node = true ↔
      site.isReference = true ∧ IsNamedBareCall context node := by
  simp only [isReported, IsNamedBareCall, Bool.and_eq_true, beq_iff_eq]
  tauto

/-- A frame reports its own node if the scope that it opens or hands on is checked. -/
theorem report?_nil_eq_some_iff {context : Context} {frame : Frame} {found : Violation} :
    frame.report? context [] = some found ↔
      enter frame.checked (Scope.classify context.source frame.node) = some true ∧
        frame.site.isReference = true ∧ IsNamedBareCall context frame.node ∧
        violation context frame.node = found := by
  rw [Frame.report?, Option.ite_none_right_eq_some, isReported_iff, Option.some.injEq]
  tauto

/-- What a frame reports further down is what a visible child reports. -/
theorem report?_cons_eq_some_iff {context : Context} {frame : Frame} {i : Nat}
    {found : Violation} :
    frame.report? context (i :: address) = some found ↔
      ∃ checked child,
        enter frame.checked (Scope.classify context.source frame.node) = some checked ∧
        frame.node.children[i]? = some child ∧ child ∈ Scope.visibleChildren frame.node ∧
        (Frame.child frame.node checked child i).report? context address = some found := by
  simp only [Frame.report?, Option.bind_eq_some_iff, Option.ite_none_left_eq_some,
    Bool.not_eq_true]
  constructor
  · rintro ⟨checked, hentered, child, hchild, hvisible, hfound⟩
    exact ⟨checked, child, hentered, hchild, (mem_visibleChildren hchild).mpr hvisible, hfound⟩
  · rintro ⟨checked, child, hentered, hchild, hmem, hfound⟩
    exact ⟨checked, hentered, child, hchild, (mem_visibleChildren hchild).mp hmem, hfound⟩

/-- What a frame reports at an address, by the trail that leads there. -/
theorem report?_eq_some_iff {context : Context} {frame : Frame} {found : Violation} :
    frame.report? context address = some found ↔
      ∃ trail node, frame.node.trail? address = some trail ∧ trail.getLast? = some node ∧
        Passes context.source trail ∧ scopeAt context.source frame.checked trail = true ∧
        (address = [] ∧ frame.site.isReference = true ∨ IsReferenceAt frame.node address) ∧
        IsNamedBareCall context node ∧ violation context node = found := by
  induction address generalizing frame with
  | nil =>
    have hreference : ¬ IsReferenceAt frame.node [] := by
      rintro ⟨above, i, parent, haddress, -⟩
      exact absurd haddress (by simp)
    rw [report?_nil_eq_some_iff]
    constructor
    · rintro ⟨hentered, hsite, hcall, hfound⟩
      refine ⟨[frame.node], frame.node, rfl, rfl,
        passes_singleton.mpr (ne_prune_of_enter hentered), ?_, Or.inl ⟨rfl, hsite⟩, hcall, hfound⟩
      rw [scopeAt_cons hentered]
      rfl
    · rintro ⟨trail, node, htrail, hlast, hpasses, hscope, hsite, hcall, hfound⟩
      obtain rfl : [frame.node] = trail := Option.some.inj htrail
      obtain rfl : frame.node = node := Option.some.inj hlast
      obtain ⟨checked, hentered⟩ := exists_enter frame.checked (passes_singleton.mp hpasses)
      rw [scopeAt_cons hentered] at hscope
      obtain rfl : checked = true := hscope
      exact ⟨hentered, (hsite.resolve_right hreference).2, hcall, hfound⟩
  | cons i address ih =>
    rw [report?_cons_eq_some_iff]
    constructor
    · rintro ⟨checked, child, hentered, hchild, hmem, hreport⟩
      obtain ⟨trail, node, htrail, hlast, hpasses, hscope, hsite, hcall, hfound⟩ := ih.mp hreport
      refine ⟨frame.node :: trail, node, ?_, ?_,
        (passes_cons htrail).mpr ⟨ne_prune_of_enter hentered, hmem, hpasses⟩, ?_,
        Or.inr ((isReferenceAt_cons hchild).mpr hsite), hcall, hfound⟩
      · rw [Node.trail?, hchild, Option.bind_some]
        exact congrArg (Option.map (frame.node :: ·)) htrail
      · rw [List.getLast?_cons_of_ne_nil (Node.trail?_ne_nil htrail), hlast]
      · rw [scopeAt_cons hentered]
        exact hscope
    · rintro ⟨trail, node, htrail, hlast, hpasses, hscope, hsite, hcall, hfound⟩
      obtain ⟨child, hchild, htrail⟩ := Option.bind_eq_some_iff.mp htrail
      obtain ⟨rest, hrest, rfl⟩ := Option.map_eq_some_iff.mp htrail
      obtain ⟨hne, hmem, hpasses⟩ := (passes_cons hrest).mp hpasses
      obtain ⟨checked, hentered⟩ := exists_enter frame.checked hne
      have hreference := hsite.resolve_left fun hnil => absurd hnil.1 (by simp)
      rw [List.getLast?_cons_of_ne_nil (Node.trail?_ne_nil hrest)] at hlast
      rw [scopeAt_cons hentered] at hscope
      exact ⟨checked, child, hentered, hchild, hmem, ih.mpr ⟨rest, node, hrest, hlast, hpasses,
        hscope, (isReferenceAt_cons hchild).mp hreference, hcall, hfound⟩⟩

/-- A finding: the node at an address, with the nodes on the way to it from the root. -/
structure IsFinding (parsed : ParsedSource) (config : RuleConfig) (address : Address)
    (trail : List Node) (node : Node) : Prop where
  trail_eq : parsed.root.trail? address = some trail
  getLast?_eq : trail.getLast? = some node
  /-- None of the nodes on the way is left out. -/
  entered : ∀ above ∈ trail, Scope.classify parsed.source above ≠ .prune
  /-- Each of them can be seen from the one above it. -/
  visible : trail.IsChain fun parent child => child ∈ Scope.visibleChildren parent
  /-- The innermost of them that opens a scope opens a checked one. -/
  inChecked : ∃ body, (trail.filter (opensScope parsed.source)).getLast? = some body ∧
    Scope.classify parsed.source body = .enterChecked
  kind_eq : node.kind = "simple_identifier"
  isReference : IsReferenceAt parsed.root address
  isModifier : node.text parsed.source ∈ builtinModifiers ∨
    node.text parsed.source ∈ config.additionalModifiers ∧ node.text parsed.source ≠ ""
  notPrecluded : ∀ token,
    (TokenStream.ofNode parsed.source parsed.root).previous? node = some token →
      token.text ∉ ["switch", ".", "(", "\\(", ":"]
  isCall : ∃ token, (TokenStream.ofNode parsed.source parsed.root).next? node = some token ∧
    token.text ∈ ["(", "\x7b"]

variable {parsed : ParsedSource} {config : RuleConfig}

/-- A finding is the node at its address. -/
theorem IsFinding.at?_eq (h : IsFinding parsed config address trail node) :
    parsed.root.at? address = some node :=
  Node.getLast?_of_trail? h.trail_eq ▸ h.getLast?_eq

/-- Below the root a scope is checked only if some node has opened it as checked. -/
theorem scopeAt_false_iff :
    scopeAt source false trail = true ↔
      ∃ body, (trail.filter (opensScope source)).getLast? = some body ∧
        Scope.classify source body = .enterChecked := by
  rw [scopeAt]
  cases (trail.filter (opensScope source)).getLast? <;> simp

/-- A catalog holds the built-in names and those that were added, but for the empty one. -/
theorem contains_ofNames_iff {names : List String} {name : String} :
    (Catalog.ofNames names).contains name = true ↔
      name ∈ builtinModifiers ∨ name ∈ names ∧ name ≠ "" := by
  simp [Catalog.contains, Catalog.ofNames]

/-- Bare calls are told by the tokens on both sides. -/
theorem isBareCall_iff {context : Context} :
    isBareCall context node = true ↔
      (∀ token, context.tokens.previous? node = some token →
        token.text ∉ ["switch", ".", "(", "\\(", ":"]) ∧
      ∃ token, context.tokens.next? node = some token ∧ token.text ∈ ["(", "\x7b"] := by
  rw [isBareCall, Bool.and_eq_true, Bool.not_eq_true', Option.any_eq_false, Option.any_eq_true]
  simp [precludingTokens, callOpeners]

/-- The walk from the root reports the findings. -/
theorem report?_ofRoot_eq_some_iff {found : Violation} :
    (Frame.ofRoot parsed.root).report? (Context.ofParsed parsed config) address = some found ↔
      ∃ trail node, IsFinding parsed config address trail node ∧
        violation (Context.ofParsed parsed config) node = found := by
  rw [report?_eq_some_iff]
  constructor
  · rintro ⟨trail, node, htrail, hlast, ⟨hentered, hvisible⟩, hscope, hsite, hcall, hfound⟩
    have hreference := hsite.resolve_left fun hroot => Bool.false_ne_true hroot.2
    obtain ⟨hkind, hname, hbare⟩ := hcall
    obtain ⟨hprevious, hnext⟩ := isBareCall_iff.mp hbare
    exact ⟨trail, node, ⟨htrail, hlast, hentered, hvisible, scopeAt_false_iff.mp hscope, hkind,
      hreference, contains_ofNames_iff.mp hname, hprevious, hnext⟩, hfound⟩
  · rintro ⟨trail, node, h, hfound⟩
    exact ⟨trail, node, h.trail_eq, h.getLast?_eq, ⟨h.entered, h.visible⟩,
      scopeAt_false_iff.mpr h.inChecked, Or.inr h.isReference,
      ⟨h.kind_eq, contains_ofNames_iff.mpr h.isModifier,
        isBareCall_iff.mpr ⟨h.notPrecluded, h.isCall⟩⟩, hfound⟩

/-- Whatever a scan reports, it reports of a node. -/
theorem exists_of_mem_scan {found : Violation} (h : found ∈ scan parsed config) :
    ∃ node, violation (Context.ofParsed parsed config) node = found := by
  rw [scan_eq_reports] at h
  obtain ⟨address, -, hreport⟩ := List.mem_filterMap.mp h
  obtain ⟨trail, node, -, hfound⟩ := report?_ofRoot_eq_some_iff.mp hreport
  exact ⟨node, hfound⟩

/-- Violations listed for the addresses of their nodes. -/
def FoundAt (parsed : ParsedSource) (config : RuleConfig) : List Address → List Violation → Prop :=
  List.Forall₂ fun address found => ∃ node, parsed.root.at? address = some node ∧
    found = violation (Context.ofParsed parsed config) node

/-- A scan gives one violation for every finding, in pre-order, and no others. -/
theorem exists_foundAt_scan (parsed : ParsedSource) (config : RuleConfig) :
    ∃ places : List Address, places.Pairwise (· < ·) ∧
      (∀ address, address ∈ places ↔ ∃ trail node, IsFinding parsed config address trail node) ∧
      FoundAt parsed config places (scan parsed config) := by
  let report? := (Frame.ofRoot parsed.root).report? (Context.ofParsed parsed config)
  refine ⟨parsed.root.addresses.filter fun address => (report? address).isSome,
    parsed.root.pairwise_addresses.filter _, fun address => ?_, ?_⟩
  · rw [List.mem_filter, Node.mem_addresses, Option.isSome_iff_exists]
    constructor
    · rintro ⟨-, found, hfound⟩
      obtain ⟨trail, node, h, -⟩ := report?_ofRoot_eq_some_iff.mp hfound
      exact ⟨trail, node, h⟩
    · rintro ⟨trail, node, h⟩
      exact ⟨⟨node, h.at?_eq⟩, _, report?_ofRoot_eq_some_iff.mpr ⟨trail, node, h, rfl⟩⟩
  · rw [scan_eq_reports]
    refine forall₂_filterMap (fun address found hfound => ?_) parsed.root.addresses
    obtain ⟨trail, node, h, rfl⟩ := report?_ofRoot_eq_some_iff.mp hfound
    exact ⟨node, h.at?_eq, rfl⟩

end LeadingDot.Scan
