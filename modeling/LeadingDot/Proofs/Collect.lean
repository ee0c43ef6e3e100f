import LeadingDot.Collect
import LeadingDot.Proofs.Exclusion
import LeadingDot.Proofs.Files.Disk
import LeadingDot.Proofs.Files.Walk
import LeadingDot.Proofs.Text.Encoding

/-!
# What is collected

Below a directory without links, the files to scan are told by the names that lead to them from
that directory. The path of the directory only stands before these names: none of its own names
passes a file over, leaves it out or makes it a test. It takes up room, though, and where the path
of a directory below becomes too long nothing is collected. A test is known by its stem only if
the stem is a text, so one whose stem holds malformed bytes is collected like any other file.
-/

namespace LeadingDot

namespace FileName

/-- Whether a name ends in a word. -/
def EndsIn (name : FileName) (word : String) : Prop :=
  FileName.ofString word <:+ name

instance (name : FileName) (word : String) : Decidable (name.EndsIn word) :=
  inferInstanceAs (Decidable (_ <:+ _))

/-- The name of a Swift file, by its stem. -/
def ofStem (stem : FileName) : FileName :=
  stem ++ .ofString ".swift"

variable {name stem other : FileName}

theorem ofStem_injective : Function.Injective ofStem := fun _ _ h => List.append_cancel_right h

/-- A name ends in an ascii word just when what is shown of it does. -/
theorem endsIn_decodeLossy {word : String} (h : IsAscii word) :
    Path.endsIn word (Text.Utf8.decodeLossy name) = true ↔ name.EndsIn word := by
  rw [Path.endsIn, List.isSuffixOf_iff_suffix, ← h.2, Text.Utf8.ascii_suffix_decodeLossy h.1]
  rfl

end FileName

/-- The names that lead to something below a directory without links are names of things. -/
theorem Listing.Plain.isName {listing : Listing} {names : List FileName} {item : DiskItem}
    (h : listing.Plain) (hleads : listing.LeadsTo names item) : ∀ name ∈ names, IsName name := by
  induction hleads with
  | here hitem =>
    obtain ⟨-, named, -, -⟩ := h
    exact List.forall_mem_singleton.mpr (named _ _ hitem)
  | inside hitem hleads ih =>
    obtain ⟨-, named, -, below⟩ := h
    exact List.forall_mem_cons.mpr ⟨named _ _ hitem, ih (below _ _ hitem)⟩

namespace Path

variable {path root : Path} {name stem : FileName} {names dirs : List FileName}

theorem splitName_ofStem (h : stem ≠ []) :
    splitName (.ofStem stem) = (stem, some (FileName.ofString "swift")) :=
  splitName_append h (by decide +kernel) (by decide +kernel)

/-- A Swift file is named by a stem and its extension. -/
theorem isSwift_iff (h : path.fileName? = some name) :
    path.isSwift = true ↔ ∃ stem, stem ≠ [] ∧ name = .ofStem stem := by
  have hextension : path.isSwift = true ↔
      (splitName name).2 = some (FileName.ofString "swift") := by
    rw [isSwift, extension?, h, Option.bind_some, beq_iff_eq, Option.bind_eq_some_iff]
    simp only [Text.Utf8.decode?_eq_some_iff, exists_eq_right]
    rfl
  rw [hextension]
  constructor
  · intro hswift
    obtain ⟨stem, hstem, hname⟩ := eq_of_splitName hswift
    exact ⟨stem, hstem, hname⟩
  · rintro ⟨stem, hstem, rfl⟩
    rw [splitName_ofStem hstem]

theorem stem?_of_fileName? (h : path.fileName? = some (.ofStem stem)) (hstem : stem ≠ []) :
    path.stem? = some stem := by
  rw [stem?, h, Option.map_some, splitName_ofStem hstem]

/-- Names lead to a test if the last one is a text that ends like that of a test, or one before
it is that of a directory of tests. -/
theorem isTest_ofNames (hnames : ∀ other ∈ dirs ++ [.ofStem stem], IsName other)
    (hstem : stem ≠ []) : (ofNames (dirs ++ [.ofStem stem])).isTest = false ↔
      (Text.Utf8.IsText stem → ¬ stem.EndsIn "Test" ∧ ¬ stem.EndsIn "Tests") ∧
        ∀ dir ∈ dirs, ¬ dir.EndsIn "Tests" := by
  have hdirs : ∀ dir ∈ dirs, IsName dir := fun dir hdir => hnames dir (List.mem_append_left _ hdir)
  have htest : FileName.IsAscii "Test" := by decide +kernel
  have htests : FileName.IsAscii "Tests" := by decide +kernel
  have hread : (endsIn "Tests" ((Text.Utf8.decode? stem).getD []) ||
      endsIn "Test" ((Text.Utf8.decode? stem).getD [])) = false ↔
        (Text.Utf8.IsText stem → ¬ stem.EndsIn "Test" ∧ ¬ stem.EndsIn "Tests") := by
    rw [Text.Utf8.isText_iff, Bool.or_eq_false_iff, ← Bool.not_eq_true, ← Bool.not_eq_true]
    cases hdecode : Text.Utf8.decode? stem with
    | none => simp [endsIn]
    | some text =>
      rw [Option.getD_some, ← Text.Utf8.decodeLossy_of_decode? hdecode,
        FileName.endsIn_decodeLossy htest, FileName.endsIn_decodeLossy htests]
      simp [and_comm]
  have hbelow : (ofNames dirs).components.any (fun component => component.name?.any fun name =>
      endsIn "Tests" (Text.Utf8.decodeLossy name)) = false ↔
        ∀ dir ∈ dirs, ¬ dir.EndsIn "Tests" := by
    simp only [components_ofNames hdirs, List.any_map, List.any_eq_false, Function.comp_apply,
      Component.name?, Option.any_some, FileName.endsIn_decodeLossy htests]
  rw [isTest, stem?_of_fileName? (fileName?_ofNames hnames) hstem, parent?_ofNames hnames,
    Option.bind_some, Option.any_some, Bool.or_eq_false_iff, hread, hbelow]

end Path

namespace Collect

variable {exclusion : Exclusion} {tests : Bool} {root : Path} {names dirs : List FileName}
  {stem : FileName} {listing : Listing} {config : Config}

/-- What becomes of a file with a path below the directory in which it was found. -/
def verdict (exclusion : Exclusion) (tests : Bool) (inside : Path) : Verdict :=
  if !inside.isSwift then .other
  else if exclusion.covers inside.text then .excluded
  else if !tests && inside.isTest then .test
  else .kept

theorem relative_under (h : root.text ≠ []) (hnames : ∀ name ∈ names, IsName name)
    (hne : names ≠ []) : relative root (root.under names) = .ofNames names := by
  rw [relative, Path.below?_under h hnames hne, Option.getD_some]

/-- What becomes of a file is settled by the names that lead to it. -/
theorem judge_under (h : root.text ≠ []) (hnames : ∀ name ∈ names, IsName name)
    (hne : names ≠ []) (exclusion : Exclusion) (tests : Bool) :
    judge exclusion tests root (root.under names) = verdict exclusion tests (.ofNames names) := by
  obtain ⟨dirs, name, rfl⟩ := (List.eq_nil_or_concat' names).resolve_left hne
  have hswift : (root.under (dirs ++ [name])).isSwift = (Path.ofNames (dirs ++ [name])).isSwift :=
    Bool.eq_iff_iff.mpr ((Path.isSwift_iff (Path.fileName?_under h hnames)).trans
      (Path.isSwift_iff (Path.fileName?_ofNames hnames)).symm)
  rw [judge, relative_under h hnames hne, hswift, verdict]

/-- Names of directories and the stem of a Swift file below them that is to be scanned, as far as
that does not depend on the stem. -/
structure Listed (config : Config) (listing : Listing) (dirs : List FileName) (stem : FileName) :
    Prop where
  /-- The names lead to a Swift file. -/
  file : listing.HasFile (dirs ++ [.ofStem stem])
  stem_ne : stem ≠ []
  /-- No directory on the way is hidden or holds foreign or built code. -/
  entered : ∀ dir ∈ dirs, Walk.Enters dir
  /-- No pattern leaves the file out. -/
  included : ∀ pattern ∈ config.excluded, ∀ parts, Glob.parse pattern.toList = .ok parts →
    Glob.isMatch parts ([0x2F].intercalate (dirs ++ [.ofStem stem])) = false
  /-- No directory on the way is one of tests, unless tests are scanned. -/
  outside_tests : config.includeTestFiles = some true ∨ ∀ dir ∈ dirs, ¬ dir.EndsIn "Tests"

/-- Names of directories and the stem of a Swift file below them that is to be scanned. -/
structure Wanted (config : Config) (listing : Listing) (dirs : List FileName) (stem : FileName) :
    Prop extends Listed config listing dirs stem where
  /-- The stem is not that of a test, unless tests are scanned. -/
  no_test : config.includeTestFiles = some true ∨ ¬ stem.EndsIn "Test" ∧ ¬ stem.EndsIn "Tests"

/-- Whether a stem tells if its file is scanned: tests are scanned as well, or the stem is a text,
or else does not end like that of a test. -/
def Tells (config : Config) (stem : FileName) : Prop :=
  config.includeTestFiles = some true ∨ Text.Utf8.IsText stem ∨
    ¬ stem.EndsIn "Test" ∧ ¬ stem.EndsIn "Tests"

theorem verdict_eq_kept_iff {inside : Path} : verdict exclusion tests inside = .kept ↔
    inside.isSwift = true ∧ exclusion.covers inside.text = false ∧
      (tests = true ∨ inside.isTest = false) := by
  unfold verdict
  cases inside.isSwift <;> cases exclusion.covers inside.text <;> cases tests <;>
    cases inside.isTest <;> simp

theorem scansTests_iff : config.scansTests = true ↔ config.includeTestFiles = some true := by
  unfold Config.scansTests
  rcases config.includeTestFiles with _ | _ | _ <;> simp

/-- The names that lead to the files to scan, as a walk comes upon them. -/
def found (exclusion : Exclusion) (tests : Bool) (listing : Listing) : List (List FileName) :=
  (Walk.listed listing).filter fun names => verdict exclusion tests (.ofNames names) == .kept

/-- A file is found if nothing but its stem can make it a test and the stem, read as a text,
does not. -/
theorem mem_found (hplain : listing.Plain)
    (hcovers : ∀ text, exclusion.covers text = true ↔ ∃ pattern ∈ config.excluded, ∃ parts,
      Glob.parse pattern.toList = .ok parts ∧ Glob.isMatch parts text = true) :
    names ∈ found exclusion config.scansTests listing ↔
      ∃ dirs stem, names = dirs ++ [.ofStem stem] ∧ Listed config listing dirs stem ∧
        (config.includeTestFiles = some true ∨
          (Text.Utf8.IsText stem → ¬ stem.EndsIn "Test" ∧ ¬ stem.EndsIn "Tests")) := by
  have hincluded : ∀ text, exclusion.covers text = false ↔ ∀ pattern ∈ config.excluded, ∀ parts,
      Glob.parse pattern.toList = .ok parts → Glob.isMatch parts text = false := by
    intro text
    rw [← Bool.not_eq_true, hcovers]
    simp
  rw [found, List.mem_filter, Walk.mem_listed_iff, beq_iff_eq, verdict_eq_kept_iff, hincluded,
    scansTests_iff]
  constructor
  · rintro ⟨⟨hfile, hentered⟩, hswift, hincluded, htests⟩
    have hnames := hplain.isName hfile.choose_spec
    obtain ⟨dirs, name, rfl⟩ := (List.eq_nil_or_concat' names).resolve_left hfile.ne_nil
    obtain ⟨stem, hstem, rfl⟩ := (Path.isSwift_iff (Path.fileName?_ofNames hnames)).mp hswift
    rw [Path.isTest_ofNames hnames hstem, or_and_left] at htests
    rw [List.dropLast_concat] at hentered
    have hlisted : Listed config listing dirs stem :=
      ⟨hfile, hstem, fun dir hdir => Walk.skips_eq_false_iff.mp (hentered dir hdir), hincluded,
        htests.2⟩
    exact ⟨dirs, stem, rfl, hlisted, htests.1⟩
  · rintro ⟨dirs, stem, rfl, ⟨hfile, hstem, hentered, hincluded, houtside⟩, hread⟩
    have hnames := hplain.isName hfile.choose_spec
    rw [List.dropLast_concat, Path.isTest_ofNames hnames hstem, or_and_left]
    exact ⟨⟨hfile, fun dir hdir => Walk.skips_eq_false_iff.mpr (hentered dir hdir)⟩,
      (Path.isSwift_iff (Path.fileName?_ofNames hnames)).mpr ⟨stem, hstem, rfl⟩, hincluded, hread,
      houtside⟩

/-- Where its stem tells, a file is found if it is wanted. -/
theorem mem_found_iff_wanted (hplain : listing.Plain)
    (hcovers : ∀ text, exclusion.covers text = true ↔ ∃ pattern ∈ config.excluded, ∃ parts,
      Glob.parse pattern.toList = .ok parts ∧ Glob.isMatch parts text = true)
    (htells : Tells config stem) :
    dirs ++ [.ofStem stem] ∈ found exclusion config.scansTests listing ↔
      Wanted config listing dirs stem := by
  rw [mem_found hplain hcovers]
  constructor
  · rintro ⟨dirs', stem', heq, hlisted, hread⟩
    obtain ⟨rfl, hstem⟩ := List.append_inj' heq rfl
    obtain rfl := FileName.ofStem_injective (List.singleton_inj.mp hstem)
    refine ⟨hlisted, ?_⟩
    rcases htells with hall | htext | hnone
    · exact Or.inl hall
    · exact hread.imp_right fun hread => hread htext
    · exact Or.inr hnone
  · rintro ⟨hlisted, hno⟩
    exact ⟨dirs, stem, rfl, hlisted, hno.imp_right fun hno _ => hno⟩

theorem isName_of_mem_found (hplain : listing.Plain) (h : names ∈ found exclusion tests listing) :
    (∀ name ∈ names, IsName name) ∧ names ≠ [] := by
  have hfile := (Walk.mem_listed_iff.mp (List.mem_of_mem_filter h)).1
  exact ⟨hplain.isName hfile.choose_spec, hfile.ne_nil⟩

theorem pairwise_precedes_found (hplain : listing.Plain) (exclusion : Exclusion) (tests : Bool) :
    (found exclusion tests listing).Pairwise Walk.Precedes :=
  (Walk.pairwise_precedes_listed hplain).filter _

theorem text_ne_nil_of_find {disk : Disk} {base : Path} {place : Place}
    (h : disk.find base root = .ok place) : root.text ≠ [] := by
  intro hnil
  rw [Disk.find, hnil] at h
  cases h

/-- Below a directory without links, what is collected is what is found there. -/
theorem collect_eq (hplain : listing.Plain) (hexclusion : config.exclusion = .ok exclusion)
    {disk : Disk} {base : Path} {location : List FileName}
    (hfind : disk.find base root = .ok ⟨location, .directory listing⟩)
    (hfits : Walk.Fits root listing) :
    collect disk base root config =
      .ok ((found exclusion config.scansTests listing).map root.under) := by
  have hwalk : (disk.walk base root).mapM id = .ok ((Walk.listed listing).map root.under) := by
    rw [Disk.walk_eq hfind hplain hfits, List.mapM_map]
    exact List.mapM_pure
  have hjudge : (Walk.listed listing).filter
        ((fun path => judge exclusion config.scansTests root path == .kept) ∘ root.under) =
      found exclusion config.scansTests listing := by
    refine List.filter_congr fun names hnames => ?_
    have hfile := (Walk.mem_listed_iff.mp hnames).1
    rw [Function.comp_apply, judge_under (text_ne_nil_of_find hfind)
      (hplain.isName hfile.choose_spec) hfile.ne_nil]
  rw [collect, hexclusion, hwalk, ← hjudge, ← List.filter_map]
  rfl

/-- What a collection owes to the things below the directory where it starts, and to nothing
else. -/
structure CollectsBelow (listing : Listing) (config : Config) : Prop where
  /-- If all patterns are glob patterns, files are listed once each, in the order of a walk: only
  such as are to be scanned as far as their stems do not matter, and of the files whose stems tell
  just those that are to be scanned. This is what is collected under whatever path the directory
  has, as long as it leaves the paths of the directories below short enough. -/
  files : (∀ pattern ∈ config.excluded, Exclusion.Parses pattern) →
    ∃ found : List (List FileName), found.Nodup ∧ found.Pairwise Walk.Precedes ∧
      (∀ names ∈ found, ∃ dirs stem, names = dirs ++ [.ofStem stem] ∧
        Listed config listing dirs stem) ∧
      (∀ dirs stem, Tells config stem →
        (dirs ++ [.ofStem stem] ∈ found ↔ Wanted config listing dirs stem)) ∧
      ∀ disk base root location, disk.find base root = .ok ⟨location, .directory listing⟩ →
        Walk.Fits root listing →
        ∃ paths, collect disk base root config = .ok paths ∧ paths.Nodup ∧
          paths = found.map root.under ∧ paths.map (relative root) = found.map .ofNames
  /-- Otherwise the first pattern that is none is told, and nothing is collected. -/
  fault : (¬ ∀ pattern ∈ config.excluded, Exclusion.Parses pattern) →
    ∃ above pattern below fault, config.excluded = above ++ pattern :: below ∧
      (∀ earlier ∈ above, Exclusion.Parses earlier) ∧
      Glob.parse pattern.toList = .error fault ∧
      ∀ disk base root, collect disk base root config = .error (.pattern ⟨pattern, fault⟩)

end Collect

/-- Below a directory without links, the files that are to be scanned are collected, each one
once and in order, and where that directory lies makes no difference. -/
theorem collectsBelow (listing : Listing) (config : Config) (h : listing.Plain) :
    Collect.CollectsBelow listing config where
  files hpatterns := by
    obtain ⟨exclusion, hexclusion, hcovers⟩ := Exclusion.exists_ofPatterns_eq_ok hpatterns
    have hordered := Collect.pairwise_precedes_found h exclusion config.scansTests
    have hnodup := hordered.imp Walk.Precedes.ne
    refine ⟨_, hnodup, hordered, ?_, fun _ _ => Collect.mem_found_iff_wanted h hcovers,
      fun disk base root location hfind hfits =>
        ⟨_, Collect.collect_eq h hexclusion hfind hfits, ?_, rfl, ?_⟩⟩
    · intro names hnames
      obtain ⟨dirs, stem, rfl, hlisted, -⟩ := (Collect.mem_found h hcovers).mp hnames
      exact ⟨dirs, stem, rfl, hlisted⟩
    · refine List.Nodup.map_on (fun names hnames others hothers => ?_) hnodup
      obtain ⟨hlegal, hne⟩ := Collect.isName_of_mem_found h hnames
      obtain ⟨hlegal', hne'⟩ := Collect.isName_of_mem_found h hothers
      exact Path.eq_of_under_eq (Collect.text_ne_nil_of_find hfind) hlegal hne hlegal' hne'
    · rw [List.map_map]
      refine List.map_congr_left fun names hnames => ?_
      obtain ⟨hlegal, hne⟩ := Collect.isName_of_mem_found h hnames
      exact Collect.relative_under (Collect.text_ne_nil_of_find hfind) hlegal hne
  fault hpatterns := by
    obtain ⟨above, pattern, below, fault, hsplit, habove, hfault, herror⟩ :=
      Exclusion.exists_ofPatterns_eq_error hpatterns
    refine ⟨above, pattern, below, fault, hsplit, habove, hfault, fun disk base root => ?_⟩
    rw [collect, Config.exclusion, herror]
    rfl

/-- A file with nothing in it. -/
def emptyFile : DiskItem :=
  .file (some ⟨⟨#[]⟩, none⟩)

namespace Listing

variable {names dirs : List FileName} {inner : Listing}

/-- A directory that holds nothing but empty files. -/
def ofFiles (names : List FileName) : Listing :=
  names.map fun name => (name, emptyFile)

theorem plain_ofFiles (hdistinct : names.Nodup) (hnames : ∀ name ∈ names, IsName name) :
    (ofFiles names).Plain := by
  refine .of_forall ?_ fun entry hentry => ?_
  · rwa [ofFiles, List.map_map, Function.comp_def, List.map_id']
  obtain ⟨name, hname, rfl⟩ := List.mem_map.mp hentry
  exact ⟨hnames name hname, Or.inl ⟨_, rfl⟩⟩

theorem not_leadsTo_ofFiles : ¬ (ofFiles names).LeadsTo dirs (.directory inner) := by
  intro hleads
  cases hleads with
  | here hitem | inside hitem =>
    obtain ⟨name, -, hfile⟩ := List.mem_map.mp hitem
    cases hfile

end Listing

/-- A source, a test of it, a source whose name is no text, and foreign code. -/
def smallProject : Listing :=
  [(.ofString "Pods", .directory (Listing.ofFiles [.ofString "Kit.swift"])),
   (.ofString "App", .directory (Listing.ofFiles
    [.ofString "HomeTests.swift", .ofString "Home.swift", FileName.ofStem [0xFF]]))]

theorem plain_smallProject : smallProject.Plain := by
  refine .of_forall (by decide +kernel) (List.forall_mem_cons.mpr
    ⟨⟨by decide +kernel, Or.inr ⟨_, rfl, ?_⟩⟩,
      List.forall_mem_singleton.mpr ⟨by decide +kernel, Or.inr ⟨_, rfl, ?_⟩⟩⟩)
  all_goals exact Listing.plain_ofFiles (by decide +kernel) (by decide +kernel)

/-- A disk with the project in a hidden directory of tests. -/
def smallDisk : Disk :=
  ⟨[(.ofString ".hidden", .directory [(.ofString "XTests", .directory smallProject)])]⟩

theorem fits_smallProject : Walk.Fits (.ofString "/.hidden/XTests") smallProject := by
  intro dirs inner hleads _
  cases hleads with
  | here hitem =>
    rcases List.mem_pair.mp hitem with hitem | hitem
    all_goals
      cases hitem
      decide +kernel
  | inside hitem hleads =>
    rcases List.mem_pair.mp hitem with hitem | hitem
    all_goals
      cases hitem
      exact absurd hleads Listing.not_leadsTo_ofFiles

/-- The sources are collected where everything lies in a hidden directory of tests. -/
theorem collectsBelow_smallProject :
    smallProject.Plain ∧ ∃ paths,
      collect smallDisk .root (.ofString "/.hidden/XTests") { excluded := ["Gen/**"] } =
        .ok paths ∧
      .ofString "/.hidden/XTests/App/Home.swift" ∈ paths ∧
      (Path.ofString "/.hidden/XTests/App").join ⟨FileName.ofStem [0xFF]⟩ ∈ paths := by
  have hparse : Glob.parse "Gen/**".toList =
      .ok [.literal 'G', .literal 'e', .literal 'n', .beneath] := by
    cbv
  have hstems : ∀ stem ∈ [FileName.ofString "Home", [0xFF]], stem ≠ [] ∧
      (¬ stem.EndsIn "Test" ∧ ¬ stem.EndsIn "Tests") ∧
        Glob.isMatch [.literal 'G', .literal 'e', .literal 'n', .beneath]
          ([0x2F].intercalate [FileName.ofString "App", FileName.ofStem stem]) = false := by
    decide +kernel
  have hwanted : ∀ stem ∈ [FileName.ofString "Home", [0xFF]],
      Collect.Wanted { excluded := ["Gen/**"] } smallProject [.ofString "App"] stem := by
    intro stem hstem
    obtain ⟨hne, hno, hmatch⟩ := hstems stem hstem
    have hleads :
        smallProject.LeadsTo [FileName.ofString "App", FileName.ofStem stem] emptyFile := by
      refine .inside (.tail _ (.head _)) (.here (List.mem_map_of_mem (.tail _ ?_)))
      rcases List.mem_pair.mp hstem with rfl | rfl
      · exact .head _
      · exact .tail _ (.head _)
    refine
      { file := ⟨_, hleads⟩
        stem_ne := hne
        entered := by decide +kernel
        included := List.forall_mem_singleton.mpr fun parts hparts => ?_
        outside_tests := Or.inr (by decide +kernel)
        no_test := Or.inr hno }
    obtain rfl := Except.ok.inj (hparse.symm.trans hparts)
    exact hmatch
  have hsteps : (Path.root.join (.ofString "/.hidden/XTests")).steps =
      [.ofString ".hidden", .ofString "XTests"] := by
    decide +kernel
  have hfind : smallDisk.find .root (.ofString "/.hidden/XTests") =
      .ok ⟨[.ofString "XTests", .ofString ".hidden"], .directory smallProject⟩ := by
    rw [Disk.find_eq_follow (by decide +kernel) (by decide +kernel), hsteps,
      Disk.follow_directory (by decide +kernel) (by decide +kernel) rfl,
      Disk.follow_directory (by decide +kernel) (by decide +kernel) rfl, Disk.follow_nil]
    rfl
  obtain ⟨found, -, -, -, hmem, hcollect⟩ :=
    (collectsBelow smallProject { excluded := ["Gen/**"] } plain_smallProject).files
      (List.forall_mem_singleton.mpr ⟨_, hparse⟩)
  obtain ⟨paths, hpaths, -, rfl, -⟩ := hcollect _ _ _ _ hfind fits_smallProject
  have hfound : ∀ stem ∈ [FileName.ofString "Home", [0xFF]],
      [.ofString "App"] ++ [FileName.ofStem stem] ∈ found := by
    intro stem hstem
    exact (hmem _ _ (Or.inr (Or.inr (hstems stem hstem).2.1))).mpr (hwanted stem hstem)
  refine ⟨plain_smallProject, _, hpaths, List.mem_map.mpr ⟨_, hfound _ (.head _), ?_⟩,
    List.mem_map.mpr ⟨_, hfound _ (.tail _ (.head _)), ?_⟩⟩
  · decide +kernel
  · decide +kernel

/-- The longest name of the letter d. -/
def longName : FileName :=
  List.replicate FileName.maxLength 0x64

/-- A source in a directory with a long name, in another such directory, and so on. -/
def nested : (depth : Nat) → Listing
  | 0 => .ofFiles [.ofString "Home.swift"]
  | depth + 1 => [(longName, .directory (nested depth))]

theorem isName_longName : IsName longName := by decide

theorem plain_nested (depth : Nat) : (nested depth).Plain := by
  induction depth with
  | zero => exact Listing.plain_ofFiles (by decide +kernel) (by decide +kernel)
  | succ depth ih =>
    exact .of_forall (List.nodup_singleton _)
      (List.forall_mem_singleton.mpr ⟨isName_longName, Or.inr ⟨_, rfl, ih⟩⟩)

theorem leadsTo_nested (depth : Nat) : (nested depth).LeadsTo
    (List.replicate depth longName ++ [.ofString "Home.swift"]) emptyFile := by
  induction depth with
  | zero => exact .here (.head _)
  | succ depth ih => exact .inside (.head _) ih

theorem wanted_nested (depth : Nat) :
    Collect.Wanted {} (nested depth) (List.replicate depth longName) (.ofString "Home") where
  file := ⟨_, leadsTo_nested depth⟩
  stem_ne := by decide +kernel
  entered dir hdir := by
    rw [List.eq_of_mem_replicate hdir]
    decide +kernel
  included := List.forall_mem_nil _
  outside_tests := Or.inr fun dir hdir => by
    rw [List.eq_of_mem_replicate hdir]
    decide +kernel
  no_test := Or.inr (by decide +kernel)

namespace Walk

variable {disk : Disk} {enter : Enter} {stage : Stage} {outer : List Stage} {name : FileName}

theorem inOrder_singleton (found : List Finding) : inOrder [(name, found)] = found := by
  rw [inOrder, List.mergeSort_singleton, List.flatMap_singleton]

/-- Each directory on the way takes up room in the path of the next, until it is too long. -/
theorem exists_nameTooLong_nested (depth : Nat) (hpath : stage.path.text ≠ [])
    (hfits : stage.path.slashed.length ≤ Path.maxLength + 1)
    (hlong : Path.maxLength + 1 < stage.path.slashed.length + depth * (longName.length + 1)) :
    ∃ path, inOrder (atItems disk enter stage outer (nested depth)) =
      [.error (.disk path .nameTooLong)] := by
  induction depth generalizing stage outer with
  | zero => omega
  | succ depth ih =>
    let path := stage.path.join ⟨longName⟩
    have hskips : skips longName = false := skips_eq_false_iff.mpr (by decide +kernel)
    have htext : path.text.length = stage.path.slashed.length + longName.length := by
      rw [Path.text_join hpath isName_longName, List.length_append]
    have hslashed : path.slashed.length = path.text.length + 1 := by
      rw [Path.slashed_join hpath isName_longName, ← Path.text_join hpath isName_longName,
        List.length_append, List.length_singleton]
    rw [nested, atItems, atItems, atNamed, inOrder_singleton, atItem, hskips,
      if_neg Bool.false_ne_true]
    by_cases hshort : path.text.length ≤ Path.maxLength
    · have hne : path.text ≠ [] := by
        rw [Path.text_join hpath isName_longName]
        exact List.append_ne_nil_of_right_ne_nil _ isName_longName.1
      have hinner : path.slashed.length ≤ Path.maxLength + 1 := by omega
      have hmore : Path.maxLength + 1 <
          path.slashed.length + depth * (longName.length + 1) := by
        rw [Nat.succ_mul] at hlong
        omega
      rw [if_neg (Nat.not_lt.mpr hshort)]
      exact ih hne hinner hmore
    · exact ⟨path, by rw [if_pos (Nat.not_le.mp hshort)]⟩

end Walk

theorem Disk.exists_walk_nested {disk : Disk} {base root : Path} {location : List FileName}
    {depth : Nat} (hfind : disk.find base root = .ok ⟨location, .directory (nested depth)⟩)
    (hroot : root.text ≠ []) (hfits : root.slashed.length ≤ Path.maxLength + 1)
    (hlong : Path.maxLength + 1 < root.slashed.length + depth * (longName.length + 1)) :
    ∃ path, disk.walk base root = [.error (.disk path .nameTooLong)] := by
  rw [Disk.walk, hfind]
  exact Walk.exists_nameTooLong_nested depth hroot hfits hlong

/-- The stem of a test that is no text. -/
def strayStem : FileName :=
  0xFF :: FileName.ofString "HomeTests"

/-- A test that is not known by its stem. -/
def strayTest : Listing :=
  .ofFiles [FileName.ofStem strayStem]

theorem plain_strayTest : strayTest.Plain :=
  Listing.plain_ofFiles (by decide +kernel) (by decide +kernel)

theorem not_isText_strayStem : ¬ Text.Utf8.IsText strayStem := by
  rw [Text.Utf8.isText_iff]
  decide +kernel

theorem listed_strayTest : Collect.Listed {} strayTest [] strayStem where
  file := ⟨_, .here (.head _)⟩
  stem_ne := List.cons_ne_nil _ _
  entered := List.forall_mem_nil _
  included := List.forall_mem_nil _
  outside_tests := Or.inr (List.forall_mem_nil _)

theorem fits_strayTest (path : Path) : Walk.Fits path strayTest :=
  fun _ _ hleads => absurd hleads Listing.not_leadsTo_ofFiles

/-- A source is not collected, nor is anything else, where the path of a directory is too long;
and a test is collected if its stem is no text. -/
theorem collect_nested_strayTest :
    ((nested 16).Plain ∧
      Collect.Wanted {} (nested 16) (List.replicate 16 longName) (.ofString "Home") ∧
      ∃ path, collect ⟨nested 16⟩ .root .root {} = .error (.walk (.disk path .nameTooLong))) ∧
    strayTest.Plain ∧ ¬ Collect.Wanted {} strayTest [] strayStem ∧
      ∃ paths, collect ⟨strayTest⟩ .root .root {} = .ok paths ∧
        Path.root.under [FileName.ofStem strayStem] ∈ paths := by
  refine ⟨⟨plain_nested 16, wanted_nested 16, ?_⟩, plain_strayTest, ?_, ?_⟩
  · obtain ⟨path, hwalk⟩ : ∃ path,
        Disk.walk ⟨nested 16⟩ .root .root = [.error (.disk path .nameTooLong)] :=
      Disk.exists_walk_nested Disk.find_root (by decide) (by decide) (by decide +kernel)
    exact ⟨path, by rw [collect, hwalk]; rfl⟩
  · rintro ⟨-, htests⟩
    have hends : strayStem.EndsIn "Tests" := by decide +kernel
    exact (htests.resolve_left (by decide)).2 hends
  · obtain ⟨exclusion, hexclusion, hcovers⟩ :=
      Exclusion.exists_ofPatterns_eq_ok (List.forall_mem_nil Exclusion.Parses)
    let config : Config := {}
    have hconfig : config.exclusion = .ok exclusion := hexclusion
    have hfound : [FileName.ofStem strayStem] ∈
        Collect.found exclusion config.scansTests strayTest :=
      (Collect.mem_found plain_strayTest hcovers).mpr ⟨[], strayStem, rfl, listed_strayTest,
        Or.inr fun htext => absurd htext not_isText_strayStem⟩
    have hcollect : collect ⟨strayTest⟩ .root .root config =
        .ok ((Collect.found exclusion config.scansTests strayTest).map Path.root.under) :=
      Collect.collect_eq plain_strayTest hconfig Disk.find_root (fits_strayTest .root)
    exact ⟨_, hcollect, List.mem_map_of_mem hfound⟩

end LeadingDot
