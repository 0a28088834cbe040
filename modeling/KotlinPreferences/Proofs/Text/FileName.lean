import KotlinPreferences.Text.FileName
import Mathlib.Data.List.Basic

/-!
# Names of files and their bytes

A name that is read back from the disk has the bytes of the text that it was written with, so two
texts name the same file just if they have the same bytes. A text with surrogates has a byte that no
ASCII text has; it never names the folder above.

* `nameBytes?_nameFrom`: the bytes of a name that is read from bytes are these bytes;
* `nameBytes?_onDisk`, `onDisk_eq_iff`: what a disk knows of a name are its bytes;
* `isUnicode_of_nameBytes?`, `onDisk_eq_iff_of_ascii`: only an ASCII text itself is read back as it.
-/

namespace KotlinPreferences.Text

/-! ### Reading a name -/

theorem nameBytes?_cons (c : CodePoint) (l : List CodePoint) :
    nameBytes? ⟨c :: l⟩ = c.nameBytes?.bind fun first => (nameBytes? ⟨l⟩).map (first ++ ·) := by
  simp only [nameBytes?, List.mapM_cons, Option.bind_eq_bind, Option.pure_def]
  cases c.nameBytes? with
  | none => rfl
  | some first => cases l.mapM CodePoint.nameBytes? <;> simp

/-- A byte below 0x80 is a character. -/
theorem isSome_utf8DecodeChar? {bytes : ByteArray} {place : Nat} (h : place < bytes.size)
    (hascii : bytes[place] < 0x80) : (bytes.utf8DecodeChar? place).isSome = true := by
  have hdone : ByteArray.utf8DecodeChar?.parseFirstByte bytes[place] = .done := by
    have hall : ∀ n : Fin 0x80, (UInt8.ofNat n &&& 0x80 == 0) = true := by decide
    have hbyte := hall ⟨bytes[place].toNat, UInt8.lt_iff_toNat_lt.1 hascii⟩
    rw [UInt8.ofNat_toNat] at hbyte
    rw [ByteArray.utf8DecodeChar?.parseFirstByte, if_pos hbyte]
  unfold ByteArray.utf8DecodeChar?
  rw [dif_pos h]
  split
  · simp_all
  · rfl
  all_goals simp_all

/-- Where a character is read, its encoding stands. -/
theorem drop_of_utf8DecodeChar? {bytes : ByteArray} {place : Nat} {c : Char}
    (h : bytes.utf8DecodeChar? place = some c) :
    bytes.data.toList.drop place =
      String.utf8EncodeChar c ++ bytes.data.toList.drop (place + c.utf8Size) := by
  have hsome : (bytes.utf8DecodeChar? place).isSome = true := by rw [h]; rfl
  have hchar : bytes.utf8DecodeChar place hsome = c := by
    simp only [ByteArray.utf8DecodeChar, h, Option.get_some]
  have hencoded := congrArg (fun b : ByteArray => b.data.toList)
    (ByteArray.utf8EncodeChar_utf8DecodeChar (h := hsome))
  rw [hchar] at hencoded
  simp only [List.toList_data_toByteArray, ByteArray.data_extract, Array.toList_extract,
    List.extract_eq_take_drop, Nat.add_sub_cancel_left] at hencoded
  rw [hencoded, ← List.drop_drop, List.take_append_drop]

/-- The bytes of a name that is read from bytes are these bytes. -/
theorem nameBytes?_nameFrom (bytes : ByteArray) (place : Nat) :
    nameBytes? ⟨nameFrom bytes place⟩ = some (bytes.data.toList.drop place) := by
  fun_induction nameFrom bytes place with
  | case1 place hlt c hc ih =>
    rw [nameBytes?_cons, ih, drop_of_utf8DecodeChar? hc]
    rfl
  | case2 place hlt hnone ih =>
    have hge : ¬ bytes[place] < 0x80 := fun hascii => by
      simpa [hnone] using isSome_utf8DecodeChar? hlt hascii
    have hbyte : (bytes[place]).toNat < 0x100 := bytes[place].toNat_lt
    rw [UInt8.lt_iff_toNat_lt] at hge
    have hge : 0x80 ≤ (bytes[place]).toNat := Nat.le_of_not_lt hge
    have hescape : (CodePoint.ofNameByte bytes[place]).nameBytes? = some [bytes[place]] := by
      simp only [CodePoint.ofNameByte, CodePoint.nameBytes?]
      rw [if_pos (by omega), Nat.add_sub_cancel_left, UInt8.ofNat_toNat]
    have hsize : place < bytes.data.toList.length := by simpa using hlt
    rw [nameBytes?_cons, ih, hescape, List.drop_eq_getElem_cons hsize]
    rfl
  | case3 place hge =>
    rw [List.drop_of_length_le (by simpa using hge)]
    rfl

/-! ### Names on the disk -/

theorem nameBytes?_ofString (s : String) :
    nameBytes? s = some (s.toList.flatMap String.utf8EncodeChar) := by
  have hlist (l : List Char) :
      nameBytes? ⟨l.map .scalar⟩ = some (l.flatMap String.utf8EncodeChar) := by
    induction l with
    | nil => rfl
    | cons c rest ih =>
      rw [List.map_cons, nameBytes?_cons, ih]
      rfl
  rw [← ofList_toList (ofString s), toList_ofString, hlist]

/-- The name that is read from the encoding of a string is the string. -/
theorem nameFrom_encoding {bytes : ByteArray} {place : Nat} {l : List Char}
    (h : bytes.extract place bytes.size = l.utf8Encode) : nameFrom bytes place = l.map .scalar := by
  induction l generalizing place with
  | nil =>
    have hsize := congrArg ByteArray.size h
    simp only [ByteArray.size_extract, List.utf8Encode_nil, ByteArray.size_empty] at hsize
    rw [nameFrom, dif_neg (by omega), List.map_nil]
  | cons c rest ih =>
    have hchar : bytes.utf8DecodeChar? place = some c := by
      rw [ByteArray.utf8DecodeChar?_eq_utf8DecodeChar?_extract, h, List.utf8DecodeChar?_utf8Encode_cons]
    have hlt : place < bytes.size := by
      by_contra hge
      simp [ByteArray.utf8DecodeChar?, hge] at hchar
    have hfirst : [c].utf8Encode.size = c.utf8Size := by
      rw [List.utf8Encode_singleton, List.size_toByteArray, String.length_utf8EncodeChar]
    have hsize := congrArg ByteArray.size h
    rw [List.utf8Encode_cons, ByteArray.size_extract, ByteArray.size_append, hfirst, Nat.min_self]
      at hsize
    have hrest : bytes.extract (place + c.utf8Size) bytes.size = rest.utf8Encode := by
      have hinner := ByteArray.extract_extract (a := bytes) (i := place) (j := bytes.size)
        (k := c.utf8Size) (l := bytes.size - place)
      rw [Nat.min_eq_right (by omega)] at hinner
      rw [← hinner, h, List.utf8Encode_cons]
      exact ByteArray.extract_append_eq_right hfirst.symm (by omega)
    rw [nameFrom, dif_pos hlt, hchar]
    simp only [ih hrest, List.map_cons]

theorem onDisk_of_nameBytes? {s : Text} {bytes : List UInt8} (h : s.nameBytes? = some bytes) :
    s.onDisk = ⟨nameFrom bytes.toByteArray 0⟩ := by
  unfold onDisk
  split
  · rename_i hunicode
    obtain ⟨t, rfl⟩ := isUnicode_iff.1 hunicode
    rw [nameBytes?_ofString, Option.some.injEq] at h
    have hencoding : bytes.toByteArray.extract 0 bytes.toByteArray.size = t.toList.utf8Encode := by
      rw [ByteArray.extract_zero_size, ← h]
      rfl
    rw [nameFrom_encoding hencoding, ← toList_ofString, ofList_toList]
  · rw [h]

/-- A name on the disk has the bytes of the text that it was written with. -/
theorem nameBytes?_onDisk (s : Text) : s.onDisk.nameBytes? = s.nameBytes? := by
  cases h : s.nameBytes? with
  | none =>
    unfold onDisk
    rw [h, ite_self, h]
  | some bytes =>
    rw [onDisk_of_nameBytes? h, nameBytes?_nameFrom, List.drop_zero, List.toList_data_toByteArray]

/-- Two texts are the same name on the disk just if they have the same bytes. -/
theorem onDisk_eq_iff {s t : Text} {bytes : List UInt8} (h : s.nameBytes? = some bytes) :
    s.onDisk = t.onDisk ↔ t.nameBytes? = some bytes := by
  constructor
  · intro heq
    rw [← nameBytes?_onDisk, ← heq, nameBytes?_onDisk, h]
  · intro ht
    rw [onDisk_of_nameBytes? h, onDisk_of_nameBytes? ht]

/-- A text all of whose bytes are below 0x80 has no surrogates. -/
theorem isUnicode_of_nameBytes? {s : Text} {bytes : List UInt8} (h : s.nameBytes? = some bytes)
    (hascii : ∀ b ∈ bytes, b.toNat < 0x80) : s.isUnicode = true := by
  obtain ⟨l⟩ := s
  induction l generalizing bytes with
  | nil => rfl
  | cons c rest ih =>
    rw [nameBytes?_cons, Option.bind_eq_some_iff] at h
    obtain ⟨first, hfirst, hmore⟩ := h
    obtain ⟨more, hmoreBytes, rfl⟩ := Option.map_eq_some_iff.1 hmore
    have hrest := ih (fun b hb => hascii b (List.mem_append_right _ hb)) hmoreBytes
    cases c with
    | scalar c => exact hrest
    | surrogate n =>
      -- the byte of a surrogate is at least 0x80
      rw [CodePoint.nameBytes?] at hfirst
      split at hfirst
      · cases hfirst
        have hbyte := hascii _ List.mem_cons_self
        rw [UInt8.toNat_ofNat'] at hbyte
        omega
      · cases hfirst

/-- Only an ASCII text itself is read back as it. -/
theorem onDisk_eq_iff_of_ascii {s t : Text} {bytes : List UInt8} (ht : t.nameBytes? = some bytes)
    (hascii : ∀ b ∈ bytes, b.toNat < 0x80) : s.onDisk = t ↔ s = t := by
  constructor
  · intro h
    have hsame : t.onDisk = s.onDisk := by
      rw [h, onDisk_of_isUnicode (isUnicode_of_nameBytes? ht hascii)]
    have hbytes := (onDisk_eq_iff ht).1 hsame
    rwa [onDisk_of_isUnicode (isUnicode_of_nameBytes? hbytes hascii)] at h
  · rintro rfl
    exact onDisk_of_isUnicode (isUnicode_of_nameBytes? ht hascii)

/-- Only the two points themselves are read back as the name of the folder above. -/
theorem onDisk_eq_up_iff {s : Text} : s.onDisk = ".." ↔ s = ".." := by
  have hbytes : (".." : Text).nameBytes? = some [0x2E, 0x2E] := by decide
  exact onDisk_eq_iff_of_ascii hbytes (by simp)

end KotlinPreferences.Text
