import LeadingDot.Files.DiskEdit
import LeadingDot.Text.Hex

/-!
# Images of disks

An image is a text that describes a disk. Each line holds fields with tabs between them,
and the first field says what the line is about:

* `base`, path: the directory that paths start from; the root unless an image says so;
* `directory`, path: a directory;
* `link`, path, target: a link;
* `file`, path, bytes in hexadecimal digits: a file;
* `unreadable`, path: a file that cannot be read;
* `node`, depth, start, end, kind, and perhaps a field: the next node, in pre-order, of
  the tree of the file before it;
* `recovered`: the parser had to recover from an error in the file before it.

Directories that lead to a path need no line of their own.
-/

namespace LeadingDot

/-- A disk, and the directory that paths start from. -/
structure DiskImage where
  disk : Disk
  base : Path

namespace DiskImage

/-- A line of an image. -/
inductive Line where
  | base (path : Path)
  | directory (path : Path)
  | link (path target : Path)
  | file (path : Path) (bytes : List UInt8)
  | unreadable (path : Path)
  | node (entry : Entry)
  | recovered

/-- Why a text is no image. -/
inductive Fault where
  /-- A line says nothing that an image can say. -/
  | line (text : String)
  /-- What a line describes cannot be on the disk. -/
  | disk (error : DiskError)

/-- What is said of a fault. -/
def Fault.message : Fault → String
  | line text => "not a line of a disk image: " ++ text
  | disk error => "not a disk: " ++ error.message

/-- Reads the fields of a line. -/
def Line.ofFields? : List String → Option Line
  | ["base", path] => some (.base (.ofString path))
  | ["directory", path] => some (.directory (.ofString path))
  | ["link", path, target] => some (.link (.ofString path) (.ofString target))
  | ["file", path, digits] => (Text.hexBytes? digits.toList).map (.file (.ofString path))
  | ["unreadable", path] => some (.unreadable (.ofString path))
  | "node" :: depth :: start :: stop :: kind :: field => do
    let field ←
      match field with
      | [] => some none
      | [name] => some (some name)
      | _ => none
    return .node
      { depth := ← depth.toNat?, start := ← start.toNat?, stop := ← stop.toNat?, kind, field }
  | ["recovered"] => some .recovered
  | _ => none

/-- Reads a line. -/
def Line.ofText (text : String) : Except Fault Line :=
  match Line.ofFields? (text.splitOn "\t") with
  | some line => .ok line
  | none => .error (.line text)

/-- A file with the lines about its tree, the last one first. -/
structure OpenFile where
  path : Path
  bytes : List UInt8
  entries : List Entry := []
  recovered : Bool := false

/-- What a file holds once all lines about it are read. -/
def OpenFile.contents (file : OpenFile) : FileContents where
  source := ⟨file.bytes.toArray⟩
  parse? := (Node.ofEntries? file.entries.reverse).map fun root => (root, file.recovered)

/-- What the lines of an image have described so far. -/
structure Draft where
  image : DiskImage
  file : Option OpenFile

namespace Draft

/-- Changes the disk at a path, after the directories that lead to it are made. -/
def change (draft : Draft) (path : Path) (edit : Disk → Except DiskError Disk) :
    Except Fault Draft := do
  let image := draft.image
  let disk ←
    match path.parent? with
    | some parent => (image.disk.createDirectories image.base parent).mapError .disk
    | none => pure image.disk
  return { draft with image := { image with disk := ← (edit disk).mapError .disk } }

/-- Writes the file that lines can still be about. -/
def close (draft : Draft) : Except Fault Draft :=
  match draft.file with
  | none => .ok draft
  | some file =>
    { draft with file := none }.change file.path fun disk =>
      disk.write draft.image.base file.path file.contents

/-- Goes on with a line. -/
def add (draft : Draft) : Line → Except Fault Draft
  | .base path => do
    let draft ← draft.close
    return { draft with image := { draft.image with base := path } }
  | .directory path => do
    let draft ← draft.close
    draft.change path fun disk => disk.createDirectories draft.image.base path
  | .link path target => do
    let draft ← draft.close
    draft.change path fun disk => disk.create draft.image.base path (.link target)
  | .file path bytes => do
    return { ← draft.close with file := some { path, bytes } }
  | .unreadable path => do
    let draft ← draft.close
    draft.change path fun disk => disk.create draft.image.base path (.file none)
  | .node entry =>
    .ok { draft with
      file := draft.file.map fun file => { file with entries := entry :: file.entries } }
  | .recovered =>
    .ok { draft with file := draft.file.map fun file => { file with recovered := true } }

end Draft

/-- Reads an image from its lines. -/
def ofLines (lines : List String) : Except Fault DiskImage := do
  let parsed ← lines.mapM Line.ofText
  let draft ← parsed.foldlM Draft.add ⟨⟨⟨[]⟩, .root⟩, none⟩
  return (← draft.close).image

end DiskImage

end LeadingDot
