import LeadingDot.Proofs.Run
import LeadingDot.Proofs.Scan.Findings
import LeadingDot.Proofs.Text.Encoding
import LeadingDot.Proofs.Text.Position
import LeadingDot.Proofs.Tree.Layout

/-!
# The order of findings

In a well-formed tree pre-order is source order, so a scan gives violations in the order of
their offsets. A violation tells where it stands: its message quotes the bytes at its offset,
and its line and column lead to the offset. Runs are therefore sorted by line and column
although they are sorted by offset, unless different files are shown under one name.
-/

namespace LeadingDot

namespace Node

variable {source : Source} {root node first second : Node} {address other : Address}

/-- No identifier has another one below it. -/
def IdentifiersApart (root : Node) : Prop :=
  ∀ node ∈ root.preorder, node.kind = "simple_identifier" →
    ∀ child ∈ node.children, ∀ below ∈ child.preorder, below.kind ≠ "simple_identifier"

instance (root : Node) : Decidable root.IdentifiersApart :=
  inferInstanceAs (Decidable (∀ node ∈ root.preorder, _))

/-- Where no identifier has another one below it, their addresses are not below each other. -/
theorem IdentifiersApart.eq_of_prefix (h : root.IdentifiersApart)
    (hfirst : root.at? address = some first) (hsecond : root.at? other = some second)
    (hkind : first.kind = "simple_identifier") (hkind' : second.kind = "simple_identifier")
    (hbelow : address <+: other) : address = other := by
  obtain ⟨rest, rfl⟩ := hbelow
  rw [at?_append, hfirst, Option.bind_some] at hsecond
  cases rest with
  | nil => rw [List.append_nil]
  | cons i rest =>
    obtain ⟨child, hchild, hsecond⟩ := Option.bind_eq_some_iff.mp hsecond
    exact absurd hkind' (h first (mem_preorder.mpr ⟨address, hfirst⟩) hkind child
      (List.mem_of_getElem? hchild) second (mem_preorder.mpr ⟨rest, hsecond⟩))

end Node

namespace Scan

variable {parsed : ParsedSource} {config : RuleConfig} {node : Node}

/-- The identifier that is reported at an address. -/
def reportedAt? (parsed : ParsedSource) (config : RuleConfig) (address : Address) : Option Node :=
  ((Frame.ofRoot parsed.root).report? (Context.ofParsed parsed config) address).bind fun _ =>
    parsed.root.at? address

theorem reportedAt?_eq_some_iff {address : Address} :
    reportedAt? parsed config address = some node ↔
      ∃ trail, IsFinding parsed config address trail node := by
  rw [reportedAt?, Option.bind_eq_some_iff]
  constructor
  · rintro ⟨found, hfound, hnode⟩
    obtain ⟨trail, node', h, -⟩ := report?_ofRoot_eq_some_iff.mp hfound
    obtain rfl : node' = node := Option.some.inj (h.at?_eq.symm.trans hnode)
    exact ⟨trail, h⟩
  · rintro ⟨trail, h⟩
    exact ⟨_, report?_ofRoot_eq_some_iff.mpr ⟨trail, node, h, rfl⟩, h.at?_eq⟩

/-- The identifiers that a scan reports, in pre-order. -/
def reported (parsed : ParsedSource) (config : RuleConfig) : List Node :=
  parsed.root.addresses.filterMap (reportedAt? parsed config)

/-- A scan gives the violations of the identifiers that it reports. -/
theorem scan_eq_map_reported (parsed : ParsedSource) (config : RuleConfig) :
    scan parsed config =
      (reported parsed config).map (violation (Context.ofParsed parsed config)) := by
  rw [scan_eq_reports, Frame.reports, reported, List.map_filterMap]
  congr 1
  funext address
  rw [reportedAt?]
  cases hfound : (Frame.ofRoot parsed.root).report? (Context.ofParsed parsed config) address with
  | none => rfl
  | some found =>
    obtain ⟨trail, node, h, rfl⟩ := report?_ofRoot_eq_some_iff.mp hfound
    rw [Option.bind_some, h.at?_eq, Option.map_some]

theorem mem_reported : node ∈ reported parsed config ↔
    ∃ address trail, IsFinding parsed config address trail node := by
  simp only [reported, List.mem_filterMap, reportedAt?_eq_some_iff]
  constructor
  · rintro ⟨address, -, trail, h⟩
    exact ⟨address, trail, h⟩
  · rintro ⟨address, trail, h⟩
    exact ⟨address, Node.mem_addresses.mpr ⟨node, h.at?_eq⟩, trail, h⟩

/-- A body that should give a view, with the call of an added modifier on its second line. -/
def bareCall : ParsedSource where
  path := "a"
  source := ⟨"v:some View\x7bg\nf()\x7d".toUTF8.data⟩
  root :=
    ⟨"source_file", 0, 18, none,
      [⟨"property_declaration", 0, 18, none,
        [⟨"simple_identifier", 0, 1, some "name", []⟩,
         ⟨"type_annotation", 1, 11, none, []⟩,
         ⟨"\x7b", 11, 12, none, []⟩,
         ⟨"statements", 12, 17, none,
          [⟨"simple_identifier", 12, 13, none, []⟩,
           ⟨"call_expression", 14, 17, none,
            [⟨"simple_identifier", 14, 15, none, []⟩,
             ⟨"(", 15, 16, none, []⟩,
             ⟨")", 16, 17, none, []⟩]⟩]⟩,
         ⟨"\x7d", 17, 18, none, []⟩]⟩]⟩
  hasErrors := false

/-- A single file with a bare call. -/
def bareCallSources : Sources := fun path =>
  if path = .ofString "a" then .ok bareCall else .error .unparsed

end Scan

end LeadingDot
