import KotlinPreferences.Text.Fields
import KotlinPreferences.Text.FileName

/-!
# Paths of generated files

A file of a package lies below `kotlin`, one folder for each part of the package name. Paths have
`/` between their segments; `.` and empty segments name nothing, and `..` names the folder above.

* `relativePath`: the path of the file of a package;
* `segments`, `resolve`, `place`: where a path leads when it is read without looking at the disk;
* `normal`: a path without segments that name nothing.
-/

namespace KotlinPreferences.Path

/-- The parts of a package name. -/
def packageParts (package : Text) : List Text :=
  ((Text.fields '.' package.toList).filter (!·.isEmpty)).map Text.ofList

/-- The path of the file `file.extension` of a package. -/
def relativePath (package file extension : Text) : Text :=
  Text.intercalate "/" (("kotlin" : Text) :: packageParts package ++ [file ++ "." ++ extension])

/-- The parts of a path that name something. -/
def parts (path : Text) : List Text :=
  ((Text.fields '/' path.toList).filter fun s => !s.isEmpty && s != [CodePoint.scalar '.']).map
    Text.ofList

/-- The names that a path leads along, as the disk knows them. -/
def segments (path : Text) : List Text := (parts path).map Text.onDisk

/-- A place on a disk: the names of the folders on the way from the top, and its own. -/
abbrev Location := List Text

/-- The place one segment further. Above the top is the top again. -/
def step (place : Location) (segment : Text) : Location :=
  if segment = ".." then place.dropLast else place ++ [segment]

@[simp] theorem step_up (place : Location) : step place ".." = place.dropLast := if_pos rfl

theorem step_of_ne {segment : Text} (h : segment ≠ "..") (place : Location) :
    step place segment = place ++ [segment] := if_neg h

/-- The place a path leads to from a folder. -/
def resolve (folder : Location) (path : Text) : Location := (segments path).foldl step folder

/-- The slashes in front of a path that count: exactly two stay two, more are one. -/
def leadingSlashes (s : List CodePoint) : List CodePoint :=
  match (s.takeWhile (· == CodePoint.scalar '/')).length with
  | 0 => []
  | 2 => ['/', '/']
  | _ => ['/']

/-- The path without the segments that name nothing; `..` stays, and nothing at all is `.`. -/
def normal (path : Text) : Text :=
  let text := Text.ofList (leadingSlashes path.toList) ++ Text.intercalate "/" (parts path)
  if text.isEmpty then "." else text

/-- The place that a path leads to, for one who works in a folder. A path that begins with a slash
starts from the top. -/
def place (folder : Location) (path : Text) : Location :=
  resolve (if path.toList.head? = some (.scalar '/') then [] else folder) path

end KotlinPreferences.Path
