import KotlinPreferences.Malformed
import KotlinPreferences.Output.DiskFault

/-!
# Failures

Everything that can stop an operation, given by its cause. The family of a failure says how a
caller may treat it; only some families carry a text for the user.

* `Failure`, `Failure.family`, `Failure.message?`;
* `orFail`: an optional result, or a failure in its place.
-/

namespace KotlinPreferences

/-- What stops an operation. -/
inductive Failure where
  /-- The document or a type reference is malformed. -/
  | malformed (what : Malformed)
  /-- The policy for invalid properties is none of the known ones. -/
  | unsupportedPolicy (given : Value)
  /-- No declarations of this kind can be read. -/
  | unknownKind (given : Value)
  /-- There is no option of this name. -/
  | unknownOption (name : Text)
  /-- There is no node of this id. -/
  | absentNode (id : Value)
  /-- A node is known only as the end of an edge, so nothing is declared for it. -/
  | undeclaredNode
  /-- A node without a declaration cannot be shown. -/
  | unshownNode
  /-- A value or a declaration is used as something that it is not. -/
  | wrongShape
  /-- A list or an object is used as a lookup key. -/
  | unusableKey
  /-- An annotation has no argument of this name. -/
  | absentArgument (name : Text)
  /-- No declaration is known for the converter of a preference. -/
  | unresolvedConverter (converter : Value) (preference : Text)
  /-- A type declares no function of this name. -/
  | absentFunction (declaration : Value) (name : Text)
  /-- The reading function of a converter has no return type. -/
  | absentReturnType (converter : Value)
  /-- A file of the same package and name was created before. -/
  | existingFile (path : Text)
  /-- Something is written to a file that is closed. -/
  | closedFile
  /-- A text with a surrogate has no encoding. -/
  | unencodable
  /-- The bytes of a file are not the encoding of a text. -/
  | undecodable
  /-- The disk refuses a file. -/
  | refused (fault : DiskFault)
  /-- A name in a response is not a text. -/
  | unusableResponse

namespace Failure

/-- The families of failures. -/
inductive Family where
  | badValue
  | badLookup
  | badKey
  | existingFile
  | wrongShape
  | wrongType
  | unencodable
  | undecodable
  | unusableResponse
  | tooLong
  | fileForFolder
  | notFolder
  | folderForFile
  deriving DecidableEq

/-- The family of a failure. -/
def family : Failure → Family
  | malformed _ => .badValue
  | unsupportedPolicy _ => .badValue
  | unknownKind _ => .wrongType
  | unknownOption _ => .wrongType
  | absentNode _ => .badKey
  | undeclaredNode => .badKey
  | unshownNode => .wrongType
  | wrongShape => .wrongShape
  | unusableKey => .wrongType
  | absentArgument _ => .badKey
  | unresolvedConverter _ _ => .badLookup
  | absentFunction _ _ => .badLookup
  | absentReturnType _ => .badLookup
  | existingFile _ => .existingFile
  | closedFile => .badValue
  | unencodable => .unencodable
  | undecodable => .undecodable
  | refused .unencodable => .unencodable
  | refused .nullCharacter => .badValue
  | refused .longPath => .tooLong
  | refused .longName => .tooLong
  | refused .fileForFolder => .fileForFolder
  | refused .notFolder => .notFolder
  | refused .folderForFile => .folderForFile
  | unusableResponse => .unusableResponse

/-- The text of a failure, if it has one. A failure about a key shows the key in quotes. -/
def message? : Failure → Option Text
  | malformed what => some what.message
  | unsupportedPolicy given => some ("Unsupported invalid_property_policy: " ++ given.text)
  | absentNode id => some id.quoted
  | undeclaredNode => some (Quoted.ofText "payload")
  | absentArgument name => some (Quoted.ofText name)
  | unresolvedConverter converter preference =>
    some ("Unresolved converter " ++ converter.text ++ " on " ++ preference)
  | absentFunction declaration name =>
    some (declaration.text ++ " declares no function named '" ++ name ++ "'")
  | absentReturnType converter => some (converter.text ++ ".parse has no return type")
  | existingFile path => some path
  | closedFile => some "write to closed output file"
  | refused .nullCharacter => some "embedded null byte"
  | _ => none

end Failure

/-- The result, or the failure where there is none. -/
def orFail {α : Type} (result : Option α) (failure : Failure) : Except Failure α :=
  match result with
  | some a => .ok a
  | none => .error failure

@[simp] theorem orFail_some {α : Type} (a : α) (failure : Failure) :
    orFail (some a) failure = .ok a := rfl

@[simp] theorem orFail_none {α : Type} (failure : Failure) :
    orFail (none : Option α) failure = .error failure := rfl

end KotlinPreferences
