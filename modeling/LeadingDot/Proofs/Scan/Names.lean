import LeadingDot.Proofs.Scan.Order

/-!
# Names and severities of what is found

Of the settings of the rule a scan uses the names to decide which identifiers it reports, each
by itself, and the severity to write it into the violations. The name of an identifier can be
read back from the message about it. So what a scan gives for some of the names can be picked
out of what it gives for more of them.
-/

namespace LeadingDot

/-- The name that the message of a violation quotes: what stands between the first quotation
mark and the last one. -/
def Violation.quotedName (found : Violation) : String :=
  let opened := (found.message.toList.dropWhile (· != '\'')).drop 1
  let closed := (opened.reverse.dropWhile (· != '\'')).drop 1
  String.ofList closed.reverse

/-- A violation with another severity. -/
def Violation.withSeverity (severity : Severity) (found : Violation) : Violation :=
  { found with severity }

namespace Scan

/-- Whether a name is that of a modifier: a built-in one, or one of some added names other than
the empty one. -/
def IsModifier (added : List String) (name : String) : Prop :=
  name ∈ builtinModifiers ∨ name ∈ added ∧ name ≠ ""

instance (added : List String) (name : String) : Decidable (IsModifier added name) :=
  inferInstanceAs (Decidable (_ ∨ _))

variable {parsed : ParsedSource} {config other : RuleConfig} {node : Node} {address : Address}
  {trail : List Node} {names more : List String}

theorem IsModifier.mono {name : String} (h : names ⊆ more) (hname : IsModifier names name) :
    IsModifier more name := by
  rcases hname with hbuiltin | ⟨hadded, hne⟩
  · exact Or.inl hbuiltin
  · exact Or.inr ⟨h hadded, hne⟩

/-- Names that differ only in order, in repetitions and in the empty name say the same. -/
theorem isModifier_congr (h : ∀ name, name ≠ "" → (name ∈ names ↔ name ∈ more)) (name : String) :
    IsModifier names name ↔ IsModifier more name := by
  have hadded : name ∈ names ∧ name ≠ "" ↔ name ∈ more ∧ name ≠ "" :=
    and_congr_left (h name)
  exact or_congr_right hadded

/-- The message of a violation quotes the text of its identifier. -/
theorem quotedName_violation (context : Context) (node : Node) :
    (violation context node).quotedName = node.text context.source := by
  have hopen : "Missing '".toList = "Missing ".toList ++ ['\''] := by decide
  have hclose : ("' leading dot".toList).reverse = "tod gnidael ".toList ++ ['\''] := by decide
  have hunquoted : ("Missing ".toList).all (· != '\'') = true ∧
      ("tod gnidael ".toList).all (· != '\'') = true := by decide
  have hbefore : ∀ rest : List Char,
      ("Missing ".toList ++ '\'' :: rest).dropWhile (· != '\'') = '\'' :: rest := by
    intro rest
    exact List.dropWhile_append_of_pos (List.all_eq_true.mp hunquoted.1)
  have hafter : ∀ rest : List Char,
      ("tod gnidael ".toList ++ '\'' :: rest).dropWhile (· != '\'') = '\'' :: rest := by
    intro rest
    exact List.dropWhile_append_of_pos (List.all_eq_true.mp hunquoted.2)
  rw [Violation.quotedName, violation, String.toList_append, String.toList_append, hopen,
    List.append_assoc, List.append_assoc, List.singleton_append, hbefore]
  simp only [List.drop_succ_cons, List.drop_zero, List.reverse_append, hclose, List.append_assoc,
    List.singleton_append, hafter, List.reverse_reverse, String.ofList_toList]

/-- Only the names among the settings decide whether an identifier is reported, and they decide
by its text alone. -/
theorem IsFinding.withConfig (h : IsFinding parsed config address trail node)
    (hname : IsModifier other.additionalModifiers (node.text parsed.source)) :
    IsFinding parsed other address trail node :=
  { h with isModifier := hname }

/-- The identifiers that are reported for some names are those reported for more of them whose
text is one of the names. -/
theorem reported_eq_filter (h : config.additionalModifiers ⊆ other.additionalModifiers) :
    reported parsed config = (reported parsed other).filter fun node =>
      IsModifier config.additionalModifiers (node.text parsed.source) := by
  rw [reported, reported, List.filter_filterMap]
  congr 1
  funext address
  apply Option.ext
  intro node
  rw [Option.filter_eq_some_iff, reportedAt?_eq_some_iff, reportedAt?_eq_some_iff,
    decide_eq_true_eq]
  constructor
  · rintro ⟨trail, hfinding⟩
    have hname := hfinding.isModifier
    exact ⟨⟨trail, hfinding.withConfig (IsModifier.mono h hname)⟩, hname⟩
  · rintro ⟨⟨trail, hfinding⟩, hname⟩
    exact ⟨trail, hfinding.withConfig hname⟩

/-- The same identifiers are reported whenever the names say the same. -/
theorem reported_congr (h : ∀ name, IsModifier config.additionalModifiers name ↔
    IsModifier other.additionalModifiers name) :
    reported parsed config = reported parsed other := by
  rw [reported, reported]
  congr 1
  funext address
  apply Option.ext
  intro node
  rw [reportedAt?_eq_some_iff, reportedAt?_eq_some_iff]
  constructor
  · rintro ⟨trail, hfinding⟩
    exact ⟨trail, hfinding.withConfig ((h _).mp hfinding.isModifier)⟩
  · rintro ⟨trail, hfinding⟩
    exact ⟨trail, hfinding.withConfig ((h _).mpr hfinding.isModifier)⟩

/-- A scan gives for some names what it gives for more of them, as far as it quotes one of the
names. -/
theorem scan_eq_filter (h : config.additionalModifiers ⊆ other.additionalModifiers)
    (hseverity : config.severity = other.severity) :
    scan parsed config = (scan parsed other).filter fun found =>
      IsModifier config.additionalModifiers found.quotedName := by
  have hviolation : violation (Context.ofParsed parsed config) =
      violation (Context.ofParsed parsed other) := by
    funext node
    simp only [violation, Context.ofParsed, hseverity]
  have hpicked : ((reported parsed other).filter fun node =>
        IsModifier config.additionalModifiers (node.text parsed.source)) =
      (reported parsed other).filter ((fun found : Violation =>
        decide (IsModifier config.additionalModifiers found.quotedName)) ∘
          violation (Context.ofParsed parsed other)) := by
    apply List.filter_congr
    intro node _
    have hname : (violation (Context.ofParsed parsed other) node).quotedName =
        node.text parsed.source := quotedName_violation _ node
    rw [Function.comp_apply, hname]
  rw [scan_eq_map_reported, scan_eq_map_reported, List.filter_map, ← hpicked,
    reported_eq_filter h, hviolation]

/-- A scan with another severity, for names that say the same, differs in the severity alone. -/
theorem scan_withSeverity (h : ∀ name, IsModifier config.additionalModifiers name ↔
    IsModifier other.additionalModifiers name) :
    scan parsed config = (scan parsed other).map (Violation.withSeverity config.severity) := by
  rw [scan_eq_map_reported, scan_eq_map_reported, List.map_map, reported_congr h]
  rfl

/-- Every violation of a scan has the severity that is set. -/
theorem severity_of_mem_scan {found : Violation} (h : found ∈ scan parsed config) :
    found.severity = config.severity := by
  obtain ⟨node, rfl⟩ := exists_of_mem_scan h
  rfl

end Scan

end LeadingDot
