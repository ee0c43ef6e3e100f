import LeadingDot.Files.Path
import LeadingDot.Tree.Node

/-!
# Disks

What is stored on a disk: directories, files and symbolic links, under names that are byte
strings. A path leads through directories and links to a place, or fails on the way; names
and paths beyond a length lead nowhere. A file can be there and yet not be readable. What a
file holds includes the tree that a parser builds of its bytes.
-/

namespace LeadingDot

/-- What a file holds. -/
structure FileContents where
  source : Source
  /-- The tree of the source, and whether the parser had to recover from an error; none
  if there is no tree of it. -/
  parse? : Option (Node × Bool)

/-- Something on a disk. -/
inductive DiskItem where
  /-- A file, with what it holds if it can be read. -/
  | file (contents? : Option FileContents)
  | directory (listing : List (FileName × DiskItem))
  | link (target : Path)

/-- Things in a directory by their names. -/
abbrev Listing := List (FileName × DiskItem)

/-- Why a path leads nowhere, or cannot be used as wanted. -/
inductive DiskError where
  | notFound
  | permissionDenied
  | alreadyExists
  | notDirectory
  | isDirectory
  | nameTooLong
  | tooManyLinks
  | malformedText
  deriving DecidableEq, Repr

/-- What is said of an error. -/
def DiskError.message : DiskError → String
  | notFound => "No such file or directory (os error 2)"
  | permissionDenied => "Permission denied (os error 13)"
  | alreadyExists => "File exists (os error 17)"
  | notDirectory => "Not a directory (os error 20)"
  | isDirectory => "Is a directory (os error 21)"
  | nameTooLong => "File name too long (os error 36)"
  | tooManyLinks => "Too many levels of symbolic links (os error 40)"
  | malformedText => "stream did not contain valid UTF-8"

/-- What stands between the slashes of a path, as steps from directory to directory. A slash
at the end asks for a directory, as a dot does. -/
def Path.steps (path : Path) : List FileName :=
  let names := (Path.pieces [] path.text).filter (· != [])
  names ++ if path.text.getLast?.any Path.isSlash then [[0x2E]] else []

/-- Number of bytes that a path can have. -/
def Path.maxLength : Nat := 4095

/-- Number of bytes that a name can have. -/
def FileName.maxLength : Nat := 255

/-- The directories on the way to a place, each with its name and what it holds, the last
one first. -/
abbrev Trail := List (FileName × Listing)

/-- A place on a disk: the names on the way to it from the root, the last one first, and
what is there. -/
structure Place where
  location : List FileName
  item : DiskItem

/-- The path of a place from the root. -/
def Place.path (place : Place) : Path :=
  if place.location.isEmpty then .root
  else ⟨place.location.reverse.flatMap (0x2F :: ·)⟩

/-- What is stored, by what the root directory holds. -/
structure Disk where
  root : Listing

namespace Disk

/-- What a name stands for in a directory. -/
def lookup? (listing : Listing) (name : FileName) : Option DiskItem :=
  (listing.find? (·.1 == name)).map (·.2)

/-- What the directory at the end of a trail holds. -/
def listing (disk : Disk) (trail : Trail) : Listing :=
  (trail.head?.map (·.2)).getD disk.root

/-- Number of links that a path may lead through. -/
def maxLinks : Nat := 40

/-- The place that steps lead to from the directory at the end of a trail. At most
`links` links are followed. -/
def follow (disk : Disk) (links : Nat) (trail : Trail) (steps : List FileName) :
    Except DiskError Place :=
  match steps with
  | [] => .ok ⟨trail.map (·.1), .directory (disk.listing trail)⟩
  | name :: rest =>
    if name = [0x2E] then follow disk links trail rest
    else if name = [0x2E, 0x2E] then follow disk links trail.tail rest
    else if FileName.maxLength < name.length then .error .nameTooLong
    else
      match lookup? (disk.listing trail) name with
      | none => .error .notFound
      | some (.directory items) => follow disk links ((name, items) :: trail) rest
      | some (.file contents?) =>
        if rest.isEmpty then .ok ⟨name :: trail.map (·.1), .file contents?⟩
        else .error .notDirectory
      | some (.link target) =>
        match links with
        | 0 => .error .tooManyLinks
        | links + 1 =>
          follow disk links (if target.isAbsolute then [] else trail) (target.steps ++ rest)
termination_by (links, steps.length)

/-- The place that a path leads to; `base` is the directory that it starts from unless it
starts from the root. -/
def find (disk : Disk) (base path : Path) : Except DiskError Place :=
  if path.text.isEmpty then .error .notFound
  else if Path.maxLength < path.text.length then .error .nameTooLong
  else disk.follow maxLinks [] (base.join path).steps

/-- The path of the place that a path leads to, without links and dots. -/
def canonical (disk : Disk) (base path : Path) : Except DiskError Path := do
  let place ← disk.find base path
  if Path.maxLength < place.path.text.length then throw .nameTooLong
  return place.path

/-- Whether a path leads to something. -/
def «exists» (disk : Disk) (base path : Path) : Bool :=
  (disk.find base path).isOk

/-- Whether a path leads to a directory. -/
def isDirectory (disk : Disk) (base path : Path) : Bool :=
  match disk.find base path with
  | .ok ⟨_, .directory _⟩ => true
  | _ => false

/-- Whether a path leads to a file. -/
def isFile (disk : Disk) (base path : Path) : Bool :=
  match disk.find base path with
  | .ok ⟨_, .file _⟩ => true
  | _ => false

/-- The file that a path leads to. -/
def read (disk : Disk) (base path : Path) : Except DiskError FileContents :=
  match disk.find base path with
  | .ok ⟨_, .file (some contents)⟩ => .ok contents
  | .ok ⟨_, .file none⟩ => .error .permissionDenied
  | .ok _ => .error .isDirectory
  | .error error => .error error

/-- The text of the file that a path leads to. -/
def readText (disk : Disk) (base path : Path) : Except DiskError String := do
  let contents ← disk.read base path
  match Text.Utf8.decode? contents.source.bytes.toList with
  | some text => return String.ofList text
  | none => throw .malformedText

end Disk

end LeadingDot
