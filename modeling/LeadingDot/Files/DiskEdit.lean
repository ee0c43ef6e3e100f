import LeadingDot.Files.Disk

/-!
# Changes to disks

Directories are made and files are written by their paths. A path to something new leads
to a directory, and ends in a name that is free there.
-/

namespace LeadingDot

/-- The listing with an item under a name. -/
def Listing.put (listing : Listing) (name : FileName) (item : DiskItem) : Listing :=
  match listing with
  | [] => [(name, item)]
  | (other, old) :: rest =>
    if other = name then (name, item) :: rest else (other, old) :: Listing.put rest name item

/-- The listing with an item under a name in the directory that names lead to. -/
def Listing.putAt (listing : Listing) (names : List FileName) (name : FileName)
    (item : DiskItem) : Listing :=
  match names with
  | [] => listing.put name item
  | next :: names =>
    match Disk.lookup? listing next with
    | some (.directory inner) => listing.put next (.directory (Listing.putAt inner names name item))
    | _ => listing

/-- Whether a path asks for a directory by a slash at its end. -/
def Path.asksForDirectory (path : Path) : Bool :=
  path.text.getLast?.any Path.isSlash

namespace Disk

/-- The disk with an item under a name in the directory at a location. -/
def put (disk : Disk) (location : List FileName) (name : FileName) (item : DiskItem) : Disk :=
  ⟨disk.root.putAt location.reverse name item⟩

/-- The end of a path: the place of the directory before its last name, what that
directory holds, and the name. A path that ends in dots has no such name. -/
structure End where
  location : List FileName
  listing : Listing
  name? : Option FileName

/-- The path of the directory before the last name of a path. -/
def End.path (spot : End) : Path :=
  (Place.mk spot.location (.directory spot.listing)).path

/-- The end of a path. -/
def endOf (disk : Disk) (base path : Path) : Except DiskError End := do
  if Path.maxLength < path.text.length then throw .nameTooLong
  let steps := (base.join path).steps
  let steps := if path.asksForDirectory then steps.dropLast else steps
  let parent ← disk.follow maxLinks [] steps.dropLast
  match parent.item with
  | .directory listing =>
    let name? := steps.getLast?.filter fun name => name != [0x2E] && name != [0x2E, 0x2E]
    if name?.any (FileName.maxLength < ·.length) then throw .nameTooLong
    return ⟨parent.location, listing, name?⟩
  | _ => throw .notDirectory

/-- Puts something at the end of a path, where its name is free. -/
def create (disk : Disk) (base path : Path) (item : DiskItem) : Except DiskError Disk := do
  let spot ← disk.endOf base path
  match spot.name? with
  | none => throw .alreadyExists
  | some name =>
    if (lookup? spot.listing name).isSome then throw .alreadyExists
    else return disk.put spot.location name item

/-- Makes a directory unless there is one, and before it at most `depth` of those that lead
to it. -/
def createAtDepth (disk : Disk) (base : Path) (depth : Nat) (path : Path) :
    Except DiskError Disk :=
  let settle (disk : Disk) : Except DiskError Disk :=
    match disk.create base path (.directory []) with
    | .ok disk => .ok disk
    | .error error => if disk.isDirectory base path then .ok disk else .error error
  if path.text.isEmpty then .ok disk
  else
    match disk.create base path (.directory []), depth, path.parent? with
    | .error .notFound, depth + 1, some parent => do
      settle (← disk.createAtDepth base depth parent)
    | _, _, _ => settle disk

/-- Makes a directory unless there is one, and before it those that lead to it. -/
def createDirectories (disk : Disk) (base path : Path) : Except DiskError Disk :=
  disk.createAtDepth base path.text.length path

/-- Writes a file, through at most `links` links at the end of its path. A file that cannot be
read cannot be written either. -/
def writeThrough (disk : Disk) (links : Nat) (base path : Path) (contents : FileContents) :
    Except DiskError Disk := do
  let spot ← disk.endOf base path
  match spot.name? with
  | none => throw .isDirectory
  | some name =>
    if path.asksForDirectory then throw .isDirectory
    else
      match lookup? spot.listing name with
      | some (.directory _) => throw .isDirectory
      | some (.file none) => throw .permissionDenied
      | some (.link target) =>
        match links with
        | 0 => throw .tooManyLinks
        | links + 1 => disk.writeThrough links spot.path target contents
      | _ => return disk.put spot.location name (.file (some contents))

/-- Writes a file. A link at the end of its path leads to the file. -/
def write (disk : Disk) (base path : Path) (contents : FileContents) : Except DiskError Disk :=
  if path.text.isEmpty then .error .notFound
  else disk.writeThrough maxLinks base path contents

end Disk

end LeadingDot
