import KotlinPreferences.Text

/-!
# Texts as names of files

A disk knows the names of its files by their bytes. A byte that takes no part in the encoding of a
character is read as one of the surrogates U+DC80 to U+DCFF, and a text with such surrogates names
the file of these bytes. No file is named by a text with any other surrogate.

* `nameBytes?`: the bytes of a name; `nameSize`: how many there are;
* `onDisk`: the name that is read back from the disk, one for all texts with the same bytes.
-/

namespace KotlinPreferences

/-- The bytes of a code point in the name of a file. -/
def CodePoint.nameBytes? : CodePoint → Option (List UInt8)
  | scalar c => some (String.utf8EncodeChar c)
  | surrogate n => if 0x480 ≤ n.val ∧ n.val < 0x500 then some [UInt8.ofNat (n - 0x400)] else none

/-- The surrogate that a byte of a name is read as. -/
def CodePoint.ofNameByte (b : UInt8) : CodePoint :=
  surrogate ⟨0x400 + b.toNat, by have := b.toNat_lt; omega⟩

/-- The number of bytes of a code point in the name of a file. -/
def CodePoint.nameSize : CodePoint → Nat
  | scalar c => c.utf8Size
  | surrogate _ => 1

namespace Text

/-- The bytes of a name, if a file can have it. -/
def nameBytes? (s : Text) : Option (List UInt8) :=
  (s.toList.mapM CodePoint.nameBytes?).map List.flatten

/-- The length of a name in bytes. -/
def nameSize (s : Text) : Nat := s.toList.foldl (fun size c => size + c.nameSize) 0

/-- The name of some bytes from a place on. A byte that begins no character is a surrogate. -/
def nameFrom (bytes : ByteArray) (place : Nat) : List CodePoint :=
  if h : place < bytes.size then
    match bytes.utf8DecodeChar? place with
    | some c => .scalar c :: nameFrom bytes (place + c.utf8Size)
    | none => CodePoint.ofNameByte bytes[place] :: nameFrom bytes (place + 1)
  else []
  termination_by bytes.size - place
  decreasing_by
    · have := c.utf8Size_pos
      omega
    · omega

/-- A name as it is read back from the disk. -/
def onDisk (s : Text) : Text :=
  if s.isUnicode then s
  else
    match s.nameBytes? with
    | some bytes => ⟨nameFrom bytes.toByteArray 0⟩
    | none => s

@[simp] theorem onDisk_ofString (s : String) : onDisk s = s := if_pos (isUnicode_ofString s)

theorem onDisk_of_isUnicode {s : Text} (h : s.isUnicode = true) : s.onDisk = s := if_pos h

end Text

end KotlinPreferences
