import LeadingDot.Files.Disk
import LeadingDot.Proofs.Files.Path

/-!
# Where paths lead

A path that is short enough leads on from the root of a disk, one name at a time. A name that is
short enough leads to what the directory holds under it.
-/

namespace LeadingDot

namespace Disk

variable {disk : Disk} {base path : Path} {links : Nat} {trail : Trail} {name : FileName}
  {rest : List FileName} {listing items : Listing} {contents? : Option FileContents}

theorem find_eq_follow (hpath : path.text ≠ []) (hlength : path.text.length ≤ Path.maxLength) :
    disk.find base path = disk.follow maxLinks [] (base.join path).steps := by
  rw [find, if_neg (by simpa using hpath), if_neg (Nat.not_lt.mpr hlength)]

theorem follow_nil : disk.follow links trail [] =
    .ok ⟨trail.map (·.1), .directory (disk.listing trail)⟩ := by
  rw [follow]

theorem follow_directory (hname : IsName name) (hlength : name.length ≤ FileName.maxLength)
    (h : lookup? (disk.listing trail) name = some (.directory items)) :
    disk.follow links trail (name :: rest) = disk.follow links ((name, items) :: trail) rest := by
  obtain ⟨-, hdot, hdots, -⟩ := hname
  rw [follow, if_neg hdot, if_neg hdots, if_neg (Nat.not_lt.mpr hlength)]
  simp only [h]

theorem follow_file (hname : IsName name) (hlength : name.length ≤ FileName.maxLength)
    (h : lookup? (disk.listing trail) name = some (.file contents?)) :
    disk.follow links trail [name] = .ok ⟨name :: trail.map (·.1), .file contents?⟩ := by
  obtain ⟨-, hdot, hdots, -⟩ := hname
  rw [follow, if_neg hdot, if_neg hdots, if_neg (Nat.not_lt.mpr hlength)]
  simp only [h, List.isEmpty_nil, if_true]

/-- The root path leads to the root, wherever it is taken from. -/
theorem find_root : disk.find base .root = .ok ⟨[], .directory disk.root⟩ := by
  have hsteps : (base.join .root).steps = [[0x2E]] := by
    rw [show base.join .root = .root from rfl]
    decide +kernel
  rw [find_eq_follow (by decide) (by decide), hsteps, follow, if_pos rfl, follow_nil]
  rfl

/-- A path of one name leads to what the root directory holds under it. -/
theorem find_of_steps (hpath : path.text ≠ []) (hlength : path.text.length ≤ Path.maxLength)
    (hsteps : (base.join path).steps = [name]) (hname : IsName name)
    (hshort : name.length ≤ FileName.maxLength)
    (hfile : lookup? disk.root name = some (.file contents?)) :
    disk.find base path = .ok ⟨[name], .file contents?⟩ := by
  rw [find_eq_follow hpath hlength, hsteps]
  exact follow_file hname hshort hfile

end Disk

end LeadingDot
