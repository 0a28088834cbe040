import KotlinPreferences.Output.DiskFault
import KotlinPreferences.Output.Path

/-!
# Files on a disk

The files and folders that are written from a root folder. The root is empty at first; it may be
left by `..`, and what is written outside of it is a file like the others, but is not listed.

* `Disk`, `Disk.write`: the disk after a file was written, or refused;
* `Disk.enter`: the folders on the way to a file, made where they are missing;
* `Disk.listing`: the files below the root by their paths.
-/

namespace KotlinPreferences

/-- The files and folders of a disk, as far as they are known. -/
structure Disk where
  /-- The folder that paths start from. It is there from the start, with the folders around it. -/
  root : Path.Location
  /-- The folders that were made. -/
  folders : List Path.Location := []
  files : List (Path.Location × Text) := []

namespace Disk

/-- Whether a place is a folder. -/
def isFolder (d : Disk) (place : Path.Location) : Bool :=
  place.isPrefixOf d.root || d.folders.contains place

/-- Whether a place is a file. -/
def isFile (d : Disk) (place : Path.Location) : Bool := d.files.any fun file => file.1 == place

/-! ### What a path may be -/

/-- The longest name of a file or folder, in bytes. -/
def longestName : Nat := 255

/-- The longest path, from the top of the disk, in bytes. -/
def longestPath : Nat := 4095

/-- Whether a segment holds the character zero, which no path can. -/
def hasNull (segment : Text) : Bool := segment.toList.contains (.scalar (Char.ofNat 0))

/-- The length of a path from the top, with the slash in front of each segment. -/
def pathLength : List Text → Nat
  | [] => 0
  | segment :: rest => segment.nameSize + 1 + pathLength rest

/-- The fault of a path that leads nowhere on any disk. -/
def pathFault? (d : Disk) (segments : List Text) : Option DiskFault :=
  if segments.any fun segment => segment.nameBytes?.isNone then some .unencodable
  else if segments.any hasNull then some .nullCharacter
  else if pathLength (d.root ++ segments) > longestPath then some .longPath
  else none

/-- The fault of a name that no file or folder can have. -/
def nameFault? (segment : Text) : Option DiskFault :=
  if segment.nameSize > longestName then some .longName else none

/-! ### Writing -/

/-- The disk with a folder at a place. -/
def withFolder (d : Disk) (place : Path.Location) : Disk :=
  { d with folders := d.folders ++ [place] }

/-- Goes along the segments of a folder, making the folders that are missing. Once one was missing,
each folder after it is made for itself, so that a file there stands in the place of a folder.
Before that the way is only looked up, and a file is found not to be a folder, except at its end. -/
def enter (d : Disk) (place : Path.Location) (making : Bool) :
    List Text → Disk × Except DiskFault Path.Location
  | [] => (d, .ok place)
  | segment :: rest =>
    let next := Path.step place segment
    if d.isFolder next then enter d next making rest
    else if d.isFile next then
      (d, .error (if making || rest.isEmpty then .fileForFolder else .notFolder))
    else
      match nameFault? segment with
      | some fault => (d, .error fault)
      | none => enter (d.withFolder next) next true rest

/-- The disk after the folder of some segments below the root was made. -/
def makeFolder (d : Disk) (segments : List Text) : Disk × Except DiskFault Path.Location :=
  match d.pathFault? segments with
  | some fault => (d, .error fault)
  | none => d.enter d.root false segments

/-- The disk with a file at a place, instead of an earlier one there. -/
def put (d : Disk) (place : Path.Location) (content : Text) : Disk :=
  { d with files := d.files.filter (fun file => file.1 != place) ++ [(place, content)] }

/-- The disk after a file of some name was written into a folder, or refused. -/
def putInto (d : Disk) (folder : Path.Location) (name content : Text) :
    Disk × Except DiskFault Unit :=
  let place := Path.step folder name
  if d.isFolder place then (d, .error .folderForFile)
  else
    match nameFault? name with
    | some fault => (d, .error fault)
    | none => (d.put place content, .ok ())

/-- The disk after a file was written at a path, or refused. Folders on the way are made, also for
a file that is refused after all. -/
def write (d : Disk) (path content : Text) : Disk × Except DiskFault Unit :=
  let segments := Path.segments path
  match d.makeFolder segments.dropLast with
  | (d, .error fault) => (d, .error fault)
  | (d, .ok folder) =>
    match d.pathFault? segments with
    | some fault => (d, .error fault)
    | none =>
      match segments.getLast? with
      | none => (d, .error .folderForFile)
      | some name => d.putInto folder name content

/-! ### Listing -/

/-- The path of a place from the top. -/
def pathOf (place : Path.Location) : Text := Text.intercalate "/" place

/-- A file with its path from the root, if it lies below the root. -/
def listed? (d : Disk) (file : Path.Location × Text) : Option (Text × Text) :=
  if d.root.isPrefixOf file.1 then some (pathOf (file.1.drop d.root.length), file.2) else none

/-- The files below the root by their paths, in the order of the paths. -/
def listing (d : Disk) : List (Text × Text) :=
  (d.files.filterMap d.listed?).mergeSort fun a b => decide (a.1 ≤ b.1)

end Disk

end KotlinPreferences
