import LeadingDot.Files.Walk
import LeadingDot.Proofs.Files.Path
import LeadingDot.Proofs.Sorting
import LeadingDot.Proofs.Text.Utf8
import Mathlib.Data.List.Nodup

/-!
# What a walk lists

Where no links are, a walk is told by what lies below its start. It lists the files to which the
names of directories lead that it does not pass over, each one once, in the order of the first
names that differ. Where it starts makes no difference, as long as the path of no directory that
it enters is too long: such a directory ends the walk in an error.
-/

namespace LeadingDot

/-- Files and directories with names of their own, and nothing else below them. -/
inductive Listing.Plain : Listing → Prop
  | intro {listing : Listing} (distinct : (listing.map (·.1)).Nodup)
      (named : ∀ name item, (name, item) ∈ listing → IsName name)
      (unlinked : ∀ name target, (name, .link target) ∉ listing)
      (below : ∀ name inner, (name, .directory inner) ∈ listing → Plain inner) : Plain listing

theorem Listing.Plain.of_forall {listing : Listing} (distinct : (listing.map (·.1)).Nodup)
    (h : ∀ entry ∈ listing, IsName entry.1 ∧ ((∃ contents, entry.2 = .file contents) ∨
      ∃ inner, entry.2 = .directory inner ∧ Plain inner)) : listing.Plain := by
  refine .intro distinct (fun name item hitem => (h _ hitem).1) ?_ ?_
  · intro name target hitem
    obtain ⟨-, ⟨_, hfile⟩ | ⟨_, hdirectory, -⟩⟩ := h _ hitem
    · cases hfile
    · cases hdirectory
  · intro name inner hitem
    obtain ⟨-, ⟨_, hfile⟩ | ⟨_, hdirectory, hinner⟩⟩ := h _ hitem
    · cases hfile
    · cases hdirectory
      exact hinner

/-- Whether names lead from a directory to something in it or below it. -/
inductive Listing.LeadsTo : Listing → List FileName → DiskItem → Prop
  | here {listing : Listing} {name : FileName} {item : DiskItem} (h : (name, item) ∈ listing) :
      LeadsTo listing [name] item
  | inside {listing inner : Listing} {name : FileName} {names : List FileName} {item : DiskItem}
      (h : (name, .directory inner) ∈ listing) (hnames : LeadsTo inner names item) :
      LeadsTo listing (name :: names) item

theorem Listing.LeadsTo.ne_nil {listing : Listing} {names : List FileName} {item : DiskItem}
    (h : listing.LeadsTo names item) : names ≠ [] := by
  cases h <;> exact List.cons_ne_nil _ _

/-- Whether names lead from a directory to a file. -/
def Listing.HasFile (listing : Listing) (names : List FileName) : Prop :=
  ∃ contents?, listing.LeadsTo names (.file contents?)

theorem Listing.HasFile.ne_nil {listing : Listing} {names : List FileName}
    (h : listing.HasFile names) : names ≠ [] := by
  obtain ⟨contents?, hleads⟩ := h
  exact hleads.ne_nil

/-- A word of ascii characters is the text of its bytes. -/
def FileName.IsAscii (word : String) : Prop :=
  (∀ b ∈ FileName.ofString word, b < 0x80) ∧
    Text.Utf8.ascii (FileName.ofString word) = word.toList

instance (word : String) : Decidable (FileName.IsAscii word) :=
  inferInstanceAs (Decidable (_ ∧ _))

namespace Walk

/-- Whether a walk enters a directory with a name: it is not hidden, and not one for foreign or
built code. -/
def Enters (name : FileName) : Prop :=
  ¬ FileName.ofString "." <+: name ∧
    name ∉ ["Pods", "Carthage", ".build", "DerivedData"].map FileName.ofString

instance (name : FileName) : Decidable (Enters name) :=
  inferInstanceAs (Decidable (_ ∧ _))

/-- Malformed bytes do not make a name one that is passed over. -/
theorem skips_eq_false_iff {name : FileName} : skips name = false ↔ Enters name := by
  have hhidden : (Text.Utf8.decodeLossy name).head? = some '.' ↔
      FileName.ofString "." <+: name := by
    have hdot : FileName.IsAscii "." := by decide +kernel
    rw [← Text.Utf8.ascii_prefix_decodeLossy hdot.1, hdot.2]
    cases Text.Utf8.decodeLossy name <;> simp [eq_comm]
  have hforeign : String.ofList (Text.Utf8.decodeLossy name) ∈ foreignNames ↔
      name ∈ foreignNames.map FileName.ofString := by
    have hascii : ∀ word ∈ foreignNames, FileName.IsAscii word := by decide +kernel
    have hword : ∀ word ∈ foreignNames,
        String.ofList (Text.Utf8.decodeLossy name) = word ↔ FileName.ofString word = name := by
      intro word hmem
      obtain ⟨hbytes, htext⟩ := hascii word hmem
      rw [eq_comm (b := name), ← Text.Utf8.decodeLossy_eq_ascii_iff hbytes, htext,
        ← String.toList_inj, String.toList_ofList]
    rw [List.mem_map]
    constructor
    · intro hmem
      exact ⟨_, hmem, (hword _ hmem).mp rfl⟩
    · rintro ⟨word, hmem, hname⟩
      rwa [(hword word hmem).mpr hname]
  rw [skips, Enters, Bool.or_eq_false_iff, beq_eq_false_iff_ne, ne_eq, hhidden,
    ← Bool.not_eq_true (List.contains ..), List.contains_iff_mem, hforeign]
  rfl

/-- Whether some names come before others: at the first place where they part, they are ordered
by their bytes. -/
def Precedes (names others : List FileName) : Prop :=
  ∃ above name below other beyond, names = above ++ name :: below ∧
    others = above ++ other :: beyond ∧ name < other

variable {α β : Type} {name : FileName} {names others : List FileName} {listing : Listing}

theorem Precedes.cons (name : FileName) (h : Precedes names others) :
    Precedes (name :: names) (name :: others) := by
  obtain ⟨above, first, below, other, beyond, rfl, rfl, hlt⟩ := h
  exact ⟨name :: above, first, below, other, beyond, rfl, rfl, hlt⟩

theorem Precedes.of_lt {other : FileName} (h : name < other) (names others : List FileName) :
    Precedes (name :: names) (other :: others) :=
  ⟨[], name, names, other, others, rfl, rfl, h⟩

theorem Precedes.ne (h : Precedes names others) : names ≠ others := by
  obtain ⟨above, name, below, other, beyond, rfl, rfl, hlt⟩ := h
  intro heq
  obtain ⟨rfl, -⟩ := List.cons.inj (List.append_cancel_left heq)
  exact List.lt_irrefl _ hlt

/-- What is found under names, in the order of the names. -/
def ordered (found : List (FileName × List α)) : List α :=
  (found.mergeSort fun a b => a.1 ≤ b.1).flatMap (·.2)

theorem inOrder_eq (found : List (FileName × List Finding)) : inOrder found = ordered found := rfl

theorem map_ordered (f : α → β) (found : List (FileName × List α)) :
    (ordered found).map f = ordered (found.map fun entry => (entry.1, entry.2.map f)) := by
  let image : FileName × List α → FileName × List β := fun entry => (entry.1, entry.2.map f)
  have hsort : (found.mergeSort fun a b => a.1 ≤ b.1).map image =
      (found.map image).mergeSort fun a b => a.1 ≤ b.1 :=
    List.map_mergeSort (f := image) fun _ _ _ _ => rfl
  rw [ordered, ordered, ← hsort, List.flatMap_map, List.map_flatMap]

theorem mem_ordered {x : α} {found : List (FileName × List α)} :
    x ∈ ordered found ↔ ∃ entry ∈ found, x ∈ entry.2 := by
  simp only [ordered, List.mem_flatMap, List.mem_mergeSort]

/-- What is found under distinct names is ordered if it is so under each name, and what is found
under a lesser name comes first. -/
theorem pairwise_ordered {r : α → α → Prop} {found : List (FileName × List α)}
    (hdistinct : (found.map (·.1)).Nodup) (hentry : ∀ entry ∈ found, entry.2.Pairwise r)
    (hlt : ∀ a ∈ found, ∀ b ∈ found, a.1 < b.1 → ∀ x ∈ a.2, ∀ y ∈ b.2, r x y) :
    (ordered found).Pairwise r := by
  have hperm := List.mergeSort_perm found fun a b => decide (a.1 ≤ b.1)
  have hle : (found.mergeSort fun a b => a.1 ≤ b.1).Pairwise fun a b => a.1 ≤ b.1 :=
    pairwise_mergeSort_name (·.1) found
  have hne : (found.mergeSort fun a b => a.1 ≤ b.1).Pairwise fun a b => a.1 ≠ b.1 :=
    List.pairwise_map.mp ((hperm.map Prod.fst).nodup_iff.mpr hdistinct)
  rw [ordered, List.pairwise_flatMap]
  refine ⟨fun entry h => hentry entry (hperm.mem_iff.mp h), ?_⟩
  refine (hle.and hne).imp_of_mem fun ha hb hab => ?_
  exact hlt _ (hperm.mem_iff.mp ha) _ (hperm.mem_iff.mp hb) (Std.lt_of_le_of_ne hab.1 hab.2)

mutual

/-- The names that lead to the files at something with a name, where directories are passed over
as in a walk. -/
def namesAt (name : FileName) : DiskItem → List (List FileName)
  | .file _ => [[name]]
  | .directory listing =>
    if skips name then [] else (ordered (namesAtItems listing)).map (name :: ·)
  | .link _ => []

/-- The names that lead to the files at each thing in a directory. -/
def namesAtItems : Listing → List (FileName × List (List FileName))
  | [] => []
  | item :: rest => namesAtNamed item :: namesAtItems rest

/-- The names that lead to the files at a thing with its name. -/
def namesAtNamed : FileName × DiskItem → FileName × List (List FileName)
  | (name, item) => (name, namesAt name item)

end

/-- The names that lead to the files which a walk comes upon. -/
def listed (listing : Listing) : List (List FileName) :=
  ordered (namesAtItems listing)

theorem namesAtItems_eq_map (listing : Listing) :
    namesAtItems listing = listing.map fun item => (item.1, namesAt item.1 item.2) := by
  induction listing with
  | nil => rw [namesAtItems, List.map_nil]
  | cons item rest ih => rw [namesAtItems, ih, List.map_cons, namesAtNamed]

theorem atItems_eq_map (disk : Disk) (enter : Enter) (stage : Stage) (outer : List Stage)
    (listing : Listing) : atItems disk enter stage outer listing =
      listing.map fun item => (item.1, atItem disk enter stage outer item.1 item.2) := by
  induction listing with
  | nil => rw [atItems, List.map_nil]
  | cons item rest ih => rw [atItems, ih, List.map_cons, atNamed]

theorem mem_listed : names ∈ listed listing ↔
    ∃ name item, (name, item) ∈ listing ∧ names ∈ namesAt name item := by
  rw [listed, mem_ordered, namesAtItems_eq_map]
  constructor
  · rintro ⟨entry, hentry, hnames⟩
    obtain ⟨⟨name, item⟩, hitem, rfl⟩ := List.mem_map.mp hentry
    exact ⟨name, item, hitem, hnames⟩
  · rintro ⟨name, item, hitem, hnames⟩
    exact ⟨_, List.mem_map_of_mem hitem, hnames⟩

theorem cons_mem_namesAt {first : FileName} {item : DiskItem} :
    first :: names ∈ namesAt name item ↔ first = name ∧
      ((∃ contents, item = .file contents) ∧ names = [] ∨
        ∃ inner, item = .directory inner ∧ skips name = false ∧ names ∈ listed inner) := by
  cases item with
  | file contents => simp [namesAt]
  | link target => simp [namesAt]
  | directory inner =>
    rw [namesAt]
    split
    · next hskips => simp [hskips]
    · next hskips => simp [hskips, listed, eq_comm, and_comm]

theorem ne_nil_of_mem_namesAt {item : DiskItem} (h : names ∈ namesAt name item) : names ≠ [] := by
  rintro rfl
  cases item with
  | file contents => simp [namesAt] at h
  | link target => simp [namesAt] at h
  | directory inner =>
    rw [namesAt] at h
    split at h <;> simp at h

/-- A walk comes upon the files to which directories lead that it enters. -/
theorem mem_listed_iff : names ∈ listed listing ↔
    listing.HasFile names ∧ ∀ dir ∈ names.dropLast, skips dir = false := by
  -- The names lead down one directory at a time, so they carry the induction and not the listing.
  induction names generalizing listing with
  | nil =>
    rw [mem_listed]
    constructor
    · rintro ⟨name, item, -, hnames⟩
      exact absurd rfl (ne_nil_of_mem_namesAt hnames)
    · rintro ⟨hfile, -⟩
      exact absurd rfl hfile.ne_nil
  | cons first names ih =>
    rw [mem_listed]
    constructor
    · rintro ⟨name, item, hitem, hnames⟩
      obtain ⟨rfl, ⟨⟨contents, rfl⟩, rfl⟩ | ⟨inner, rfl, hskips, hnames⟩⟩ :=
        cons_mem_namesAt.mp hnames
      · exact ⟨⟨contents, .here hitem⟩, by simp⟩
      · obtain ⟨hfile, hdirs⟩ := ih.mp hnames
        obtain ⟨contents, hleads⟩ := hfile
        refine ⟨⟨contents, .inside hitem hleads⟩, fun dir hdir => ?_⟩
        rcases List.mem_cons.mp (List.dropLast_cons_of_ne_nil hleads.ne_nil ▸ hdir) with rfl | hdir
        · exact hskips
        · exact hdirs dir hdir
    · rintro ⟨⟨contents, hleads⟩, hdirs⟩
      cases hleads with
      | here hitem => exact ⟨first, _, hitem, cons_mem_namesAt.mpr ⟨rfl, Or.inl ⟨⟨_, rfl⟩, rfl⟩⟩⟩
      | inside hitem hleads =>
        rw [List.dropLast_cons_of_ne_nil hleads.ne_nil] at hdirs
        refine ⟨first, _, hitem, cons_mem_namesAt.mpr ⟨rfl, Or.inr ⟨_, rfl, ?_, ?_⟩⟩⟩
        · exact hdirs first List.mem_cons_self
        · exact ih.mpr ⟨⟨_, hleads⟩, fun dir hdir => hdirs dir (List.mem_cons_of_mem _ hdir)⟩

/-- A walk comes upon files one after the other. -/
theorem pairwise_precedes_listed (h : listing.Plain) : (listed listing).Pairwise Precedes := by
  induction h with
  | @intro listing distinct named unlinked below ih =>
    rw [listed, namesAtItems_eq_map]
    refine pairwise_ordered ?_ ?_ ?_
    · rwa [List.map_map, Function.comp_def]
    · intro entry hentry
      obtain ⟨⟨name, item⟩, hitem, rfl⟩ := List.mem_map.mp hentry
      cases item with
      | file contents => exact List.pairwise_singleton ..
      | link target => exact List.Pairwise.nil
      | directory inner =>
        rw [namesAt]
        split
        · exact List.Pairwise.nil
        · exact List.pairwise_map.mpr ((ih name inner hitem).imp (Precedes.cons name))
    · intro a ha b hb hlt names hnames others hothers
      obtain ⟨⟨name, item⟩, -, rfl⟩ := List.mem_map.mp ha
      obtain ⟨⟨other, item'⟩, -, rfl⟩ := List.mem_map.mp hb
      obtain ⟨first, names, rfl⟩ := List.exists_cons_of_ne_nil (ne_nil_of_mem_namesAt hnames)
      obtain ⟨first', others, rfl⟩ := List.exists_cons_of_ne_nil (ne_nil_of_mem_namesAt hothers)
      rw [(cons_mem_namesAt.mp hnames).1, (cons_mem_namesAt.mp hothers).1]
      exact Precedes.of_lt hlt names others

/-- Whether the path of every directory that a walk enters on from a path is short enough. -/
def Fits (path : Path) (listing : Listing) : Prop :=
  ∀ dirs inner, listing.LeadsTo dirs (.directory inner) → (∀ dir ∈ dirs, Enters dir) →
    (path.under dirs).text.length ≤ Path.maxLength

/-- What a walk finds below a directory without links is what is listed, whatever is to be done
at links, under the path of the directory. -/
theorem atItems_eq (h : listing.Plain) (disk : Disk) (enter : Enter) (stage : Stage)
    (outer : List Stage) (hfits : Fits stage.path listing) :
    inOrder (atItems disk enter stage outer listing) =
      (listed listing).map fun names => .ok (stage.path.under names) := by
  -- Each directory is entered at a stage of its own, under the path of the one above it.
  induction h generalizing stage outer with
  | @intro listing distinct named unlinked below ih =>
    have hitem : ∀ item ∈ listing, (item.1, atItem disk enter stage outer item.1 item.2) =
        (item.1, (namesAt item.1 item.2).map fun names => .ok (stage.path.under names)) := by
      rintro ⟨name, item⟩ hitem
      cases item with
      | file contents => rfl
      | link target => exact absurd hitem (unlinked name target)
      | directory inner =>
        simp only [atItem, namesAt]
        split
        · rfl
        · next hskips =>
          have henters := skips_eq_false_iff.mp (Bool.eq_false_of_not_eq_true hskips)
          have hshort : (stage.path.join ⟨name⟩).text.length ≤ Path.maxLength :=
            hfits [name] inner (.here hitem) (List.forall_mem_singleton.mpr henters)
          have hinner : Fits (stage.path.join ⟨name⟩) inner := fun dirs item hleads hdirs =>
            hfits (name :: dirs) item (.inside hitem hleads)
              (List.forall_mem_cons.mpr ⟨henters, hdirs⟩)
          rw [if_neg (Nat.not_lt.mpr hshort), ih name inner hitem _ _ hinner, List.map_map]
          rfl
    rw [inOrder_eq, listed, map_ordered, atItems_eq_map, namesAtItems_eq_map, List.map_map]
    exact congrArg ordered (List.map_congr_left hitem)

end Walk

/-- A walk through a directory without links finds what is listed of it, and no error. -/
theorem Disk.walk_eq {disk : Disk} {base root : Path} {location : List FileName}
    {listing : Listing} (hfind : disk.find base root = .ok ⟨location, .directory listing⟩)
    (h : listing.Plain) (hfits : Walk.Fits root listing) :
    disk.walk base root = (Walk.listed listing).map fun names => .ok (root.under names) := by
  rw [Disk.walk, hfind]
  exact Walk.atItems_eq h _ _ ⟨root, location⟩ _ hfits

end LeadingDot
