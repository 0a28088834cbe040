/-!
# Refusals of the disk

* `DiskFault`: why a file cannot be written.
-/

namespace KotlinPreferences

/-- Why a file cannot be written. -/
inductive DiskFault where
  /-- The path has no bytes. -/
  | unencodable
  /-- The path holds the character zero. -/
  | nullCharacter
  /-- The path is longer than a path may be. -/
  | longPath
  /-- A segment of the path is longer than a file name may be. -/
  | longName
  /-- A file stands where the folder of the new file belongs. -/
  | fileForFolder
  /-- A file stands where the path goes on. -/
  | notFolder
  /-- A folder stands where the file belongs. -/
  | folderForFile
  deriving DecidableEq

end KotlinPreferences
