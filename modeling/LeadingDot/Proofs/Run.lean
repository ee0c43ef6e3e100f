import LeadingDot.Proofs.Check.Comments
import LeadingDot.Proofs.Files.Below
import LeadingDot.Proofs.Files.Disk
import LeadingDot.Proofs.Result.Order
import LeadingDot.Run

/-!
# What a run gathers

A run puts the results of its files one after the other and sorts them. Violations tie only
if they are told of files with one name. If all files with a name give the same each time one of
them is listed, the order in which the files are listed is lost in the sort, and so is a division
into batches. Nothing else is lost.
-/

namespace LeadingDot

/-- Each parsed source has the path under which it is found. -/
def NamedByPath (sources : Sources) : Prop :=
  ∀ path parsed, sources path = .ok parsed → parsed.path = path.toString

theorem Disk.namedByPath_sources (disk : Disk) (base : Path) : NamedByPath (disk.sources base) := by
  intro path parsed h
  unfold Disk.sources at h
  split at h
  · cases h
  · split at h <;> cases h
    rfl

/-- Listed files of one name give the same. -/
def SameByName (sources : Sources) (config : RuleConfig) (paths : List Path) : Prop :=
  ∀ path ∈ paths, ∀ other ∈ paths, path.toString = other.toString →
    checkFile sources config path = checkFile sources config other

/-- Paths that are texts have a name each. -/
theorem SameByName.of_texts (sources : Sources) (config : RuleConfig) (texts : List String) :
    SameByName sources config (texts.map Path.ofString) := by
  intro path hpath other hother hname
  obtain ⟨text, -, rfl⟩ := List.mem_map.mp hpath
  obtain ⟨text', -, rfl⟩ := List.mem_map.mp hother
  rw [Path.toString_ofString, Path.toString_ofString] at hname
  rw [hname]

theorem SameByName.of_perm {sources : Sources} {config : RuleConfig} {paths others : List Path}
    (h : SameByName sources config paths) (hperm : others.Perm paths) :
    SameByName sources config others :=
  fun path hpath other hother => h path (hperm.mem_iff.mp hpath) other (hperm.mem_iff.mp hother)

/-- If elements of one kind all give the same and the others nothing, a list gives that as often
as elements of the kind are in it. -/
theorem flatMap_eq_replicate {α β : Type} {f : α → List β} {kind : α → Bool} {given : List β}
    {xs : List α} (hkind : ∀ x ∈ xs, kind x = true → f x = given)
    (hother : ∀ x ∈ xs, kind x = false → f x = []) :
    xs.flatMap f = (List.replicate (xs.countP kind) given).flatten := by
  induction xs with
  | nil => rfl
  | cons x xs ih =>
    rw [List.forall_mem_cons] at hkind hother
    rw [List.flatMap_cons, ih hkind.2 hother.2, List.countP_cons]
    cases hx : kind x with
    | true => rw [hkind.1 hx, if_pos rfl, List.replicate_succ, List.flatten_cons]
    | false => rw [hother.1 hx, if_neg Bool.false_ne_true, List.nil_append, Nat.add_zero]

namespace Run

variable {sources : Sources} {config : RuleConfig} {paths others : List Path} {path : Path}
  {parsed : ParsedSource}

/-- The results of files one after the other. -/
def gathered (sources : Sources) (config : RuleConfig) (paths : List Path) : Result where
  violations := paths.flatMap fun path => (checkFile sources config path).violations
  suppressed := paths.flatMap fun path => (checkFile sources config path).suppressed
  scanned := (paths.map fun path => (checkFile sources config path).scanned).sum
  skipped := paths.flatMap fun path => (checkFile sources config path).skipped

/-- Results that are merged one by one. -/
theorem foldl_merge (results : List Result) (result : Result) :
    results.foldl Result.merge result =
      { violations := result.violations ++ results.flatMap (·.violations)
        suppressed := result.suppressed ++ results.flatMap (·.suppressed)
        scanned := result.scanned + (results.map (·.scanned)).sum
        skipped := result.skipped ++ results.flatMap (·.skipped) } := by
  induction results generalizing result with
  | nil => simp
  | cons next results ih =>
    rw [List.foldl_cons, ih]
    simp [Result.merge, Nat.add_assoc]

/-- A run sorts what it gathers. -/
theorem run_eq (sources : Sources) (config : RuleConfig) (paths : List Path) :
    run sources config paths = (gathered sources config paths).sort := by
  rw [run, foldl_merge]
  simp [gathered, Result.empty, List.flatMap_map, List.map_map, Function.comp_def]

theorem gathered_append (sources : Sources) (config : RuleConfig) (first second : List Path) :
    gathered sources config (first ++ second) =
      (gathered sources config first).merge (gathered sources config second) := by
  simp [gathered, Result.merge]

/-- What a check gives, as violations that count or as suppressed ones, comes from the scan. -/
theorem mem_scan_of_mem_violations {found : Violation}
    (h : found ∈ (check config parsed).violations) : found ∈ scan parsed config := by
  rw [check, Result.filter, Suppression.active_eq] at h
  exact List.mem_of_mem_filter h

theorem mem_scan_of_mem_suppressed {found : Suppressed}
    (h : found ∈ (check config parsed).suppressed) : found.violation ∈ scan parsed config := by
  have hmem : found.violation ∈
      (Suppression.suppressed parsed.suppressions (scan parsed config)).map (·.violation) :=
    List.mem_map_of_mem h
  rw [Suppression.map_violation_suppressed] at hmem
  exact List.mem_of_mem_filter hmem

theorem file_of_mem_scan {found : Violation} (h : found ∈ scan parsed config) :
    found.file = parsed.path := by
  obtain ⟨node, rfl⟩ := Scan.exists_of_mem_scan h
  rfl

/-- What is found in a file is told of that file. -/
theorem file_of_mem_violations (hsources : NamedByPath sources) {found : Violation}
    (h : found ∈ (checkFile sources config path).violations) : found.file = path.toString := by
  unfold checkFile at h
  split at h
  · next parsed hparsed =>
    rw [file_of_mem_scan (mem_scan_of_mem_violations h), hsources path parsed hparsed]
  · cases h

theorem file_of_mem_suppressed (hsources : NamedByPath sources) {found : Suppressed}
    (h : found ∈ (checkFile sources config path).suppressed) :
    found.violation.file = path.toString := by
  unfold checkFile at h
  split at h
  · next parsed hparsed =>
    rw [file_of_mem_scan (mem_scan_of_mem_suppressed h), hsources path parsed hparsed]
  · cases h

/-- Whatever singles out entries of one name leaves what the files of that name give, as often as
they are listed. -/
theorem filter_flatMap_checkFile {α : Type} (view : Result → List α) {file : α → String}
    (hfile : ∀ path, ∀ x ∈ view (checkFile sources config path), file x = path.toString)
    {name : String} {p : α → Bool} (hp : ∀ x, p x = true → file x = name) {given : List α}
    (hgiven : ∀ path ∈ paths, path.toString = name →
      (view (checkFile sources config path)).filter p = given) :
    (paths.flatMap fun path => view (checkFile sources config path)).filter p =
      (List.replicate (paths.countP (·.toString == name)) given).flatten := by
  rw [List.filter_flatMap]
  refine flatMap_eq_replicate (fun path hpath hname => ?_) (fun path _ hname => ?_)
  · exact hgiven path hpath (beq_iff_eq.mp hname)
  · refine List.filter_eq_nil_iff.mpr fun x hx hpx => ?_
    exact beq_eq_false_iff_ne.mp hname ((hfile path x hx).symm.trans (hp x hpx))

/-- If entries tie only within a name, the entries of each tie do not depend on the order of
the files. -/
theorem filter_tied_flatMap_checkFile {α : Type} (view : Result → List α) (file : α → String)
    {le : α → α → Bool}
    (hfile : ∀ path, ∀ x ∈ view (checkFile sources config path), file x = path.toString)
    (htied : ∀ x y, tied le x y = true → file y = file x)
    (hsame : SameByName sources config paths) (h : others.Perm paths) (x : α) :
    (others.flatMap fun path => view (checkFile sources config path)).filter (tied le x) =
      (paths.flatMap fun path => view (checkFile sources config path)).filter (tied le x) := by
  obtain ⟨given, hgiven⟩ : ∃ given, ∀ path ∈ paths, path.toString = file x →
      (view (checkFile sources config path)).filter (tied le x) = given := by
    by_cases hlisted : ∃ path ∈ paths, path.toString = file x
    · obtain ⟨path, hpath, hname⟩ := hlisted
      refine ⟨(view (checkFile sources config path)).filter (tied le x),
        fun other hother hname' => ?_⟩
      rw [hsame other hother path hpath (hname'.trans hname.symm)]
    · exact ⟨[], fun path hpath hname => absurd ⟨path, hpath, hname⟩ hlisted⟩
  have hgiven' : ∀ path ∈ others, path.toString = file x →
      (view (checkFile sources config path)).filter (tied le x) = given :=
    fun path hpath => hgiven path (h.mem_iff.mp hpath)
  rw [filter_flatMap_checkFile view hfile (htied x) hgiven,
    filter_flatMap_checkFile view hfile (htied x) hgiven', h.countP_eq]

/-- Only how often each file is listed matters to a run. -/
theorem run_eq_of_perm (hsources : NamedByPath sources) (hsame : SameByName sources config paths)
    (h : others.Perm paths) : run sources config others = run sources config paths := by
  rw [run_eq, run_eq]
  refine Result.sort_congr ?_ ?_ (h.map _).sum_nat (h.flatMap_right _)
  · exact filter_tied_flatMap_checkFile Result.violations (·.file)
      (fun _ _ => file_of_mem_violations hsources) (fun _ _ => Violation.file_eq_of_tied) hsame h
  · exact filter_tied_flatMap_checkFile Result.suppressed (·.violation.file)
      (fun _ _ => file_of_mem_suppressed hsources) (fun _ _ => Violation.file_eq_of_tied) hsame h

/-- Runs over two batches give together what a run over all files gives. -/
theorem sort_merge_run (sources : Sources) (config : RuleConfig) (first second : List Path) :
    ((run sources config first).merge (run sources config second)).sort =
      run sources config (first ++ second) := by
  rw [run_eq, run_eq, run_eq, Result.sort_merge_sort, gathered_append]

/-- A file is either scanned or skipped. -/
theorem scanned_add_skipped_checkFile (sources : Sources) (config : RuleConfig) (path : Path) :
    (checkFile sources config path).scanned + (checkFile sources config path).skipped.length =
      1 := by
  unfold checkFile
  cases sources path <;> rfl

/-- As many files are scanned or skipped as are listed. -/
theorem scanned_add_skipped (sources : Sources) (config : RuleConfig) (paths : List Path) :
    (run sources config paths).scanned + (run sources config paths).skipped.length =
      paths.length := by
  rw [run_eq]
  simp only [Result.sort, List.length_mergeSort]
  induction paths with
  | nil => rfl
  | cons path paths ih =>
    have hpath := scanned_add_skipped_checkFile sources config path
    simp only [gathered, List.map_cons, List.sum_cons, List.flatMap_cons, List.length_append,
      List.length_cons] at ih ⊢
    omega

/-- Only a file that is scanned gives entries of its own. -/
theorem mem_checkFile {α : Type} (view : Result → List α) (hview : view (.ofSkipped path) = [])
    {x : α} : x ∈ view (checkFile sources config path) ↔
      ∃ parsed, sources path = .ok parsed ∧ x ∈ view (check config parsed) := by
  unfold checkFile
  cases sources path <;> simp [hview]

/-- A run gives no violations but those of the files that are listed. -/
theorem mem_violations {found : Violation} : found ∈ (run sources config paths).violations ↔
    ∃ path ∈ paths, ∃ parsed, sources path = .ok parsed ∧
      found ∈ (check config parsed).violations := by
  rw [run_eq, Result.sort, List.mem_mergeSort, gathered, List.mem_flatMap]
  simp only [mem_checkFile Result.violations rfl]

theorem mem_suppressed {found : Suppressed} : found ∈ (run sources config paths).suppressed ↔
    ∃ path ∈ paths, ∃ parsed, sources path = .ok parsed ∧
      found ∈ (check config parsed).suppressed := by
  rw [run_eq, Result.sort, List.mem_mergeSort, gathered, List.mem_flatMap]
  simp only [mem_checkFile Result.suppressed rfl]

/-- The entries of a file are there as often as its name is listed. -/
theorem filter_file_mergeSort {α : Type} (view : Result → List α) {file : α → String}
    (hfile : ∀ path, ∀ x ∈ view (checkFile sources config path), file x = path.toString)
    (le : α → α → Bool) (hsame : SameByName sources config paths) (hpath : path ∈ paths) :
    (((paths.flatMap fun path => view (checkFile sources config path)).mergeSort le).filter
      (file · == path.toString)).Perm
      (List.replicate (paths.countP (·.toString == path.toString))
        (view (checkFile sources config path))).flatten := by
  refine ((List.mergeSort_perm ..).filter _).trans (.of_eq ?_)
  refine filter_flatMap_checkFile view hfile (fun x hx => beq_iff_eq.mp hx) ?_
  intro other hother hname
  rw [hsame other hother path hpath hname]
  exact List.filter_eq_self.mpr fun x hx => beq_iff_eq.mpr (hfile path x hx)

theorem gathered_cons (sources : Sources) (config : RuleConfig) (path : Path) (paths : List Path) :
    gathered sources config (path :: paths) =
      (checkFile sources config path).merge (gathered sources config paths) := rfl

/-- A file that is skipped only adds its name to the skipped ones. -/
theorem run_of_skipped (hsources : NamedByPath sources) {above below : List Path}
    (hsame : SameByName sources config (above ++ path :: below)) {cause : SkipCause}
    (h : sources path = .error cause) :
    run sources config (above ++ path :: below) =
      { run sources config (above ++ below) with
        skipped := (path.toString :: (run sources config (above ++ below)).skipped).mergeSort
          fun a b => a ≤ b } := by
  have hfile : checkFile sources config path = .ofSkipped path := by rw [checkFile, h]
  have hnames := Result.mergeSort_names_eq ((List.mergeSort_perm
    (gathered sources config (above ++ below)).skipped fun a b => a ≤ b).cons path.toString)
  rw [run_eq_of_perm hsources (hsame.of_perm List.perm_middle.symm) List.perm_middle, run_eq, run_eq, gathered_cons, hfile]
  simp [Result.merge, Result.ofSkipped, Result.sort, hnames]

/-- The files that are skipped are those that are listed and cannot be read or parsed. -/
theorem skipped_perm (sources : Sources) (config : RuleConfig) (paths : List Path) :
    (run sources config paths).skipped.Perm
      ((paths.filter fun path => !(sources path).isOk).map Path.toString) := by
  have hskipped : (gathered sources config paths).skipped =
      (paths.filter fun path => !(sources path).isOk).map Path.toString := by
    induction paths with
    | nil => rfl
    | cons path paths ih =>
      rw [gathered_cons, Result.merge, ih, checkFile]
      cases h : sources path <;>
        simp [h, Except.isOk, Except.toBool, check, Result.ofSkipped, Result.filter]
  rw [run_eq, ← hskipped]
  exact List.mergeSort_perm ..

/-- What a run over listed files owes to them. -/
structure GathersAll (sources : Sources) (config : RuleConfig) (paths : List Path) : Prop where
  /-- The order of the files makes no difference. -/
  perm : ∀ others, others.Perm paths → run sources config others = run sources config paths
  /-- Nor does it make one if they are divided into two batches. -/
  batches : ∀ first second, (first ++ second).Perm paths →
    ((run sources config first).merge (run sources config second)).sort = run sources config paths
  /-- Every file is scanned or skipped. -/
  total : (run sources config paths).scanned + (run sources config paths).skipped.length =
    paths.length
  /-- The violations of each file are there as often as the file is listed under its name. -/
  violations : ∀ path ∈ paths, ∀ parsed, sources path = .ok parsed →
    ((run sources config paths).violations.filter (·.file == path.toString)).Perm
      (List.replicate (paths.countP (·.toString == path.toString))
        (check config parsed).violations).flatten
  /-- So are its suppressed violations. -/
  suppressed : ∀ path ∈ paths, ∀ parsed, sources path = .ok parsed →
    ((run sources config paths).suppressed.filter (·.violation.file == path.toString)).Perm
      (List.replicate (paths.countP (·.toString == path.toString))
        (check config parsed).suppressed).flatten
  /-- There are no others. -/
  violations_listed : ∀ found ∈ (run sources config paths).violations,
    ∃ path ∈ paths, ∃ parsed, sources path = .ok parsed ∧ found.file = path.toString ∧
      found ∈ (check config parsed).violations
  suppressed_listed : ∀ found ∈ (run sources config paths).suppressed,
    ∃ path ∈ paths, ∃ parsed, sources path = .ok parsed ∧
      found.violation.file = path.toString ∧ found ∈ (check config parsed).suppressed
  /-- The files that are skipped are those that cannot be read or parsed. -/
  skipped : (run sources config paths).skipped.Perm
    ((paths.filter fun path => !(sources path).isOk).map Path.toString)
  /-- Such a file changes nothing else. -/
  skip : ∀ above path below cause, paths = above ++ path :: below → sources path = .error cause →
    run sources config paths =
      { run sources config (above ++ below) with
        skipped := (path.toString :: (run sources config (above ++ below)).skipped).mergeSort
          fun a b => a ≤ b }

end Run

/-- A run gives what its files give, each as often as it is listed, and the order in which
they are listed is lost. -/
theorem gathersAll_run (sources : Sources) (config : RuleConfig) (paths : List Path)
    (hsources : NamedByPath sources) (hsame : SameByName sources config paths) :
    Run.GathersAll sources config paths where
  perm _ h := Run.run_eq_of_perm hsources hsame h
  batches first second h := by
    rw [Run.sort_merge_run, Run.run_eq_of_perm hsources hsame h]
  total := Run.scanned_add_skipped sources config paths
  violations path hpath parsed h := by
    have hfile : checkFile sources config path = check config parsed := by rw [checkFile, h]
    rw [← hfile, Run.run_eq]
    exact Run.filter_file_mergeSort Result.violations
      (fun _ _ => Run.file_of_mem_violations hsources) _ hsame hpath
  suppressed path hpath parsed h := by
    have hfile : checkFile sources config path = check config parsed := by rw [checkFile, h]
    rw [← hfile, Run.run_eq]
    exact Run.filter_file_mergeSort Result.suppressed
      (fun _ _ => Run.file_of_mem_suppressed hsources) _ hsame hpath
  violations_listed found h := by
    obtain ⟨path, hpath, parsed, hparsed, hfound⟩ := Run.mem_violations.mp h
    refine ⟨path, hpath, parsed, hparsed, ?_, hfound⟩
    rw [Run.file_of_mem_scan (Run.mem_scan_of_mem_violations hfound), hsources path parsed hparsed]
  suppressed_listed found h := by
    obtain ⟨path, hpath, parsed, hparsed, hfound⟩ := Run.mem_suppressed.mp h
    refine ⟨path, hpath, parsed, hparsed, ?_, hfound⟩
    rw [Run.file_of_mem_scan (Run.mem_scan_of_mem_suppressed hfound), hsources path parsed hparsed]
  skipped := Run.skipped_perm sources config paths
  skip above path below cause hpaths h := by
    rw [hpaths, Run.run_of_skipped hsources (hpaths ▸ hsame) h]

/-- A disk with a source that has two bare calls, one of them suppressed. -/
def commentedDisk : Disk :=
  ⟨[(.ofString "S.swift",
    .file (some ⟨commentedView.source, some (commentedView.root, false)⟩))]⟩

/-- The source on the disk. -/
theorem sources_commentedDisk :
    commentedDisk.sources .root (.ofString "S.swift") = .ok commentedView := by
  have hsteps : (Path.root.join (.ofString "S.swift")).steps = [.ofString "S.swift"] := by
    decide +kernel
  have hfind : commentedDisk.find .root (.ofString "S.swift") = .ok ⟨[.ofString "S.swift"],
      .file (some ⟨commentedView.source, some (commentedView.root, false)⟩)⟩ :=
    Disk.find_of_steps (by decide +kernel) (by decide +kernel) hsteps (by decide +kernel)
      (by decide +kernel) rfl
  rw [Disk.sources, Disk.read, hfind]
  simp only [Path.toString_ofString]
  rfl

/-- A run over a file that is listed twice and holds both kinds of violations, and one that is
not there. -/
theorem gathersAll_run_commentedDisk :
    NamedByPath (commentedDisk.sources .root) ∧
      SameByName (commentedDisk.sources .root) {} (["S.swift", "T", "S.swift"].map .ofString) ∧
      (∃ parsed, commentedDisk.sources .root (.ofString "S.swift") = .ok parsed ∧
        (check {} parsed).violations ≠ [] ∧ (check {} parsed).suppressed ≠ []) ∧
      Run.GathersAll (commentedDisk.sources .root) {}
        (["S.swift", "T", "S.swift"].map .ofString) := by
  have hsame := SameByName.of_texts (commentedDisk.sources .root) {} ["S.swift", "T", "S.swift"]
  exact ⟨commentedDisk.namedByPath_sources _, hsame,
    ⟨_, sources_commentedDisk, check_commentedView⟩,
    gathersAll_run _ _ _ (commentedDisk.namedByPath_sources _) hsame⟩

end LeadingDot
