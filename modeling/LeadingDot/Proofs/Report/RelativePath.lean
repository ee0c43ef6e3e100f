import LeadingDot.Proofs.Files.Below
import LeadingDot.Report.Sarif

/-!
# What a log calls a file

A log names a file by its path relative to a base. Whether the file lies below the base is told
by components, while the relative path is cut out of the text; all the same it has the components
behind those of the base, whatever slashes and dots the two hold. Files that lie below a
base at different places are therefore told apart, as long as no name there holds a backslash:
a backslash is written as a slash.
-/

namespace LeadingDot.Sarif

variable {file other : String} {base : Path} {rest rest' : List Component}

/-- The components of the path with a text. -/
def componentsOf (text : String) : List Component :=
  (Path.ofString text).components

/-- A file lies properly below a base, at the place where some components lead, and no name on
the way there holds a backslash. -/
structure LiesBelow (file : String) (base : Path) (rest : List Component) : Prop where
  components : componentsOf file = base.components ++ rest
  proper : rest ≠ []
  plain : ∀ name, Component.name name ∈ rest → 0x5C ∉ name

/-- The addresses of the files that a finding names. -/
def Finding.uris (finding : Finding) : List String :=
  finding.locations.map (·.physicalLocation.artifactLocation.uri)

theorem isText_ofString (file : String) : Text.Utf8.IsText (Path.ofString file).text :=
  Text.Utf8.isText_encode file.toList

theorem isEmpty_toString_iff : base.toString.isEmpty = true ↔ base.text = [] := by
  rw [Path.toString, String.isEmpty_iff, String.ofList_eq_empty_iff,
    Text.Utf8.decodeLossy_eq_nil_iff]

theorem same_iff : (Path.ofString file).same base = true ↔
    componentsOf file = base.components :=
  beq_iff_eq

/-- A path stays as it is without a base and outside of it. -/
theorem relativePath_of_outside (h : base.text = [] ∨ ¬ base.components <+: componentsOf file) :
    relativePath file base = file := by
  rcases h with hbase | hprefix
  · rw [relativePath, if_pos (isEmpty_toString_iff.mpr hbase)]
  have hsame : ¬ (Path.ofString file).same base = true := by
    intro hsame
    exact hprefix (same_iff.mp hsame ▸ List.prefix_rfl)
  have hbelow : (Path.ofString file).below? base = none :=
    Path.below?_eq_none_iff.mpr hprefix
  rw [relativePath, if_neg hsame, hbelow, ite_self]

/-- The base itself is called by its name. -/
theorem relativePath_of_same (hbase : base.text ≠ []) (h : componentsOf file = base.components) :
    relativePath file base =
      ((Path.ofString file).fileName?.map fun name => Path.toString ⟨name⟩).getD file := by
  rw [relativePath, if_neg (mt isEmpty_toString_iff.mp hbase), if_pos (same_iff.mpr h)]

/-- A file below the base is called by a part of its path that leads there from the base. -/
theorem exists_relativePath (hbase : base.text ≠ []) (h : LiesBelow file base rest) :
    ∃ part : Path, Path.ofString (relativePath file base) = part ∧ Path.anchor part.text = [] ∧
      part.components = rest := by
  have hprefix : base.components <+: componentsOf file := ⟨rest, h.components.symm⟩
  obtain ⟨part, hbelow, hanchor, hparts⟩ := Path.exists_below? hbase hprefix
  have hrest : part.components = rest := List.append_cancel_left (hparts.symm.trans h.components)
  have hsame : ¬ (Path.ofString file).same base = true := by
    rw [same_iff, h.components]
    simpa using h.proper
  have hbackslash : '\\' ∉ Text.Utf8.decodeLossy part.text := by
    -- A backslash is no separator, so it would stand in a name of the part.
    intro hc
    have hc : 0x5C ∈ part.text := (Text.Utf8.mem_decodeLossy (by decide)).mp hc
    obtain ⟨name, hname, hmem⟩ := Path.exists_name_of_mem hc (by decide) (by decide)
    rw [← Path.components_of_anchor hanchor] at hname
    exact h.plain name (hrest ▸ hname) hmem
  have hplain : part.toString.toList.map (fun c => if c = '\\' then '/' else c) =
      part.toString.toList := by
    rw [Path.toString, String.toList_ofList]
    refine (List.map_congr_left fun c hc => if_neg ?_).trans (List.map_id _)
    rintro rfl
    exact hbackslash hc
  have hrelative : relativePath file base = part.toString := by
    rw [relativePath, if_neg (mt isEmpty_toString_iff.mp hbase), if_neg hsame, hbelow]
    exact (congrArg String.ofList hplain).trans String.ofList_toList
  have htext : Text.Utf8.IsText part.text := Path.isText_below? (isText_ofString file) hbase hbelow
  exact ⟨part, by rw [hrelative, Path.ofString_toString htext], hanchor, hrest⟩

/-- Below one base the relative path tells where a file lies. -/
theorem componentsOf_eq_of_relativePath_eq (h : LiesBelow file base rest)
    (h' : LiesBelow other base rest') (heq : relativePath file base = relativePath other base) :
    componentsOf file = componentsOf other := by
  by_cases hbase : base.text = []
  · rw [relativePath_of_outside (Or.inl hbase), relativePath_of_outside (Or.inl hbase)] at heq
    rw [heq]
  · obtain ⟨part, hpart, -, hrest⟩ := exists_relativePath hbase h
    obtain ⟨part', hpart', -, hrest'⟩ := exists_relativePath hbase h'
    rw [heq, hpart'] at hpart
    rw [h.components, h'.components, ← hrest, ← hrest', hpart]

/-- How a log calls a file that was looked for at a base. -/
structure NamesFile (file : String) (base : Path) : Prop where
  /-- Without a base, and outside of it, by its path as it is. -/
  outside : base.text = [] ∨ ¬ base.components <+: componentsOf file →
    relativePath file base = file
  /-- If it is the base itself and that has a name, by the name. -/
  name : base.text ≠ [] → componentsOf file = base.components →
    ∀ name, (componentsOf file).getLast? = some (.name name) →
    FileName.ofString (relativePath file base) = name
  /-- If it is the base itself and that has no name, by its path as it is. -/
  nameless : base.text ≠ [] → componentsOf file = base.components →
    (∀ name, (componentsOf file).getLast? ≠ some (.name name)) → relativePath file base = file
  /-- Below the base by a path that has the components behind those of the base, does not start
  at the root, and leads to the file when it is put on the base. -/
  below : base.text ≠ [] → ∀ rest, LiesBelow file base rest →
    (relativePath file base).toList.head? ≠ some '/' ∧
      componentsOf (relativePath file base) = rest ∧
      (base.join (.ofString (relativePath file base))).components = componentsOf file
  /-- So files at different places below a base do not have the same address. -/
  apart : ∀ other rest rest', LiesBelow file base rest → LiesBelow other base rest' →
    componentsOf file ≠ componentsOf other →
    ∀ found found' : Violation, found.file = file → found'.file = other →
    (Finding.ofViolation base found).uris ≠ (Finding.ofViolation base found').uris

/-- Every file is named so. -/
theorem namesFile (file : String) (base : Path) : NamesFile file base where
  outside := relativePath_of_outside
  name := by
    intro hbase hsame name hname
    have hlast : (Path.ofString file).fileName? = some name := by
      rw [Path.fileName?, ← componentsOf, hname, Option.bind_some, Component.name?]
    have htext : Text.Utf8.IsText name :=
      Path.isText_of_name_mem (isText_ofString file) (List.mem_of_getLast? hname)
    rw [relativePath_of_same hbase hsame, hlast, Option.map_some, Option.getD_some]
    have hpath : Path.ofString (Path.toString ⟨name⟩) = ⟨name⟩ := Path.ofString_toString htext
    exact congrArg Path.text hpath
  nameless := by
    intro hbase hsame hname
    have hlast : (Path.ofString file).fileName? = none := by
      rw [Path.fileName?, ← componentsOf, Option.bind_eq_none_iff]
      intro component hcomponent
      cases component with
      | name text => exact absurd hcomponent (hname text)
      | root | current | parent => rfl
    rw [relativePath_of_same hbase hsame, hlast, Option.map_none, Option.getD_none]
  below := by
    intro hbase rest h
    obtain ⟨part, hpart, hanchor, hrest⟩ := exists_relativePath hbase h
    refine ⟨?_, ?_, ?_⟩
    · intro hhead
      have habsolute : (Path.ofString (relativePath file base)).isAbsolute = true := by
        obtain ⟨cs, hcs⟩ := List.head?_eq_some_iff.mp hhead
        rw [Path.isAbsolute, Path.ofString, hcs, Text.Utf8.encode, List.flatMap_cons]
        rfl
      rw [hpart, Path.isAbsolute_eq_false hanchor] at habsolute
      cases habsolute
    · rw [componentsOf, hpart, hrest]
    · rw [hpart, Path.components_join hbase hanchor, hrest]
      exact h.components.symm
  apart := by
    intro other rest rest' h h' hne found found' hfile hother huris
    have heq : relativePath found.file base = relativePath found'.file base :=
      List.head_eq_of_cons_eq huris
    rw [hfile, hother] at heq
    exact hne (componentsOf_eq_of_relativePath_eq h h' heq)

/-- The path of a file below a base, with slashes and dots that count for nothing in both. -/
theorem namesFile_sloppyPath :
    LiesBelow "/work//App/./Views//../Home.swift/" (.ofString "/work/App/.")
        [.name (.ofString "Views"), .parent, .name (.ofString "Home.swift")] ∧
      relativePath "/work//App/./Views//../Home.swift/" (.ofString "/work/App/.") =
        "Views//../Home.swift" ∧
      componentsOf "Views//../Home.swift" =
        [.name (.ofString "Views"), .parent, .name (.ofString "Home.swift")] := by
  have hbelow : LiesBelow "/work//App/./Views//../Home.swift/" (.ofString "/work/App/.")
      [.name (.ofString "Views"), .parent, .name (.ofString "Home.swift")] := by
    refine ⟨by decide +kernel, List.cons_ne_nil _ _, ?_⟩
    have hnames : ∀ name ∈ ["Views", "Home.swift"], 0x5C ∉ FileName.ofString name := by
      decide +kernel
    simpa using hnames
  have hpath : relativePath "/work//App/./Views//../Home.swift/" (.ofString "/work/App/.") =
      "Views//../Home.swift" := by
    decide +kernel
  obtain ⟨-, hcomponents, -⟩ := (namesFile _ _).below (by decide +kernel) _ hbelow
  rw [hpath] at hcomponents
  exact ⟨hbelow, hpath, hcomponents⟩

/-- Where a name holds a backslash two files can have the same address. -/
example : relativePath "/work/a\\b" (.ofString "/work") =
    relativePath "/work/a/b" (.ofString "/work") := by
  decide +kernel

end LeadingDot.Sarif
