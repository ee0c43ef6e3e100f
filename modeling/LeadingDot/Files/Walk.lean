import LeadingDot.Files.Disk

/-!
# Walks

A walk lists the files in a directory and below it, depth first, the things in each
directory in the order of their names. Links are followed. A directory is passed over if
its name starts with a dot or is that of a directory for foreign or built code, unless the
walk starts there. A link that leads to a directory which the walk is in is an error, and
so is one that leads nowhere. A directory to be entered by a path that is too long is an
error as well.
-/

namespace LeadingDot

/-- What can go wrong in a walk. -/
inductive WalkError where
  /-- A path leads nowhere. -/
  | disk (path : Path) (error : DiskError)
  /-- A link leads to a directory that the walk is in. -/
  | loop (link ancestor : Path)
  deriving DecidableEq, Repr

namespace WalkError

/-- What is said of an error. -/
def message : WalkError → String
  | disk path error => "IO error for operation on " ++ path.toString ++ ": " ++ error.message
  | loop link ancestor =>
    "File system loop found: " ++ link.toString ++ " points to an ancestor " ++ ancestor.toString

/-- What is said of an error and of what caused it. -/
def report (error : WalkError) : String :=
  match error with
  | disk _ cause => error.message ++ ": " ++ cause.message
  | loop .. => error.message

end WalkError

namespace Walk

/-- Names of the directories that are passed over, beside those that start with a dot. -/
def foreignNames : List String := ["Pods", "Carthage", ".build", "DerivedData"]

/-- Whether a directory with a name is passed over. -/
def skips (name : FileName) : Bool :=
  let shown := Text.Utf8.decodeLossy name
  shown.head? == some '.' || foreignNames.contains (String.ofList shown)

/-- A directory that the walk is in: the path by which it got there, and its location. -/
structure Stage where
  path : Path
  location : List FileName

/-- What a walk comes upon: a file, or an error. -/
abbrev Finding := Except WalkError Path

/-- What is found in a directory under its names, in their order. -/
def inOrder (found : List (FileName × List Finding)) : List Finding :=
  (found.mergeSort fun a b => a.1 ≤ b.1).flatMap (·.2)

/-- What is found in a directory that a link leads to, given the stages with that
directory at their head. -/
abbrev Enter := Stage → List Stage → Listing → List Finding

/-- What is found at a link with a name in the directory of a stage. -/
def atLink (disk : Disk) (enter : Enter) (stage : Stage) (outer : List Stage) (name : FileName)
    (target : Path) : List Finding :=
  let path := stage.path.join ⟨name⟩
  if Path.maxLength < path.text.length then [.error (.disk path .nameTooLong)]
  else
    match disk.find (Place.path ⟨stage.location, .link target⟩) target with
    | .error error => [.error (.disk path error)]
    | .ok ⟨location, .directory listing⟩ =>
      match (stage :: outer).find? (·.location == location) with
      | some ancestor => [.error (.loop path ancestor.path)]
      | none => if skips name then [] else enter ⟨path, location⟩ (stage :: outer) listing
    | .ok _ => [.ok path]

mutual

/-- What is found at something with a name in the directory of a stage. -/
def atItem (disk : Disk) (enter : Enter) (stage : Stage) (outer : List Stage) (name : FileName) :
    DiskItem → List Finding
  | .file _ => [.ok (stage.path.join ⟨name⟩)]
  | .directory listing =>
    let path := stage.path.join ⟨name⟩
    if skips name then []
    else if Path.maxLength < path.text.length then [.error (.disk path .nameTooLong)]
    else
      inOrder
        (atItems disk enter ⟨path, name :: stage.location⟩ (stage :: outer) listing)
  | .link target => atLink disk enter stage outer name target

/-- What is found at each thing in the directory of a stage. -/
def atItems (disk : Disk) (enter : Enter) (stage : Stage) (outer : List Stage) :
    Listing → List (FileName × List Finding)
  | [] => []
  | item :: rest => atNamed disk enter stage outer item :: atItems disk enter stage outer rest

/-- What is found at a thing with its name. -/
def atNamed (disk : Disk) (enter : Enter) (stage : Stage) (outer : List Stage) :
    FileName × DiskItem → FileName × List Finding
  | (name, item) => (name, atItem disk enter stage outer name item)

end

/-- What is found in the directory of a stage. At most `links` times in a row a link leads
to another directory: each time to one that the walk is not in, so there are not more
times than directories. -/
def atDirectory (disk : Disk) : (links : Nat) → Enter
  | 0, _, _, _ => []
  | links + 1, stage, outer, listing =>
    inOrder (atItems disk (atDirectory disk links) stage outer listing)

mutual

/-- Number of directories at and below something. -/
def directoryCount : DiskItem → Nat
  | .file _ => 0
  | .link _ => 0
  | .directory listing => listingCount listing + 1

/-- Number of directories in a directory and below it. -/
def listingCount : Listing → Nat
  | [] => 0
  | item :: rest => namedCount item + listingCount rest

/-- Number of directories at and below a thing with its name. -/
def namedCount : FileName × DiskItem → Nat
  | (_, item) => directoryCount item

end

end Walk

/-- What a walk finds that starts at the end of a path. -/
def Disk.walk (disk : Disk) (base start : Path) : List Walk.Finding :=
  match disk.find base start with
  | .error error => [.error (.disk start error)]
  | .ok ⟨location, .directory listing⟩ =>
    Walk.atDirectory disk (Walk.listingCount disk.root + 2) ⟨start, location⟩ [] listing
  | .ok _ => [.ok start]

end LeadingDot
