/-!
# Texts

A text is a list of code points. JSON can name a surrogate that belongs to no pair, and a text with
such a code point is a value like any other; but it is no Unicode string and has no encoding.

* `CodePoint`, `Text`, with `Text.ofString` and `Text.string?` between texts and Unicode strings;
* `Text.append`, `Text.join`, `Text.intercalate`, and the order of texts by their code points;
* `Text.isUnicode`: a text without surrogates;
* `Text.encode?`, `Text.decode?`: the bytes of a text in UTF-8, and the text of some bytes;
* `Text.decode?_of_encode?`: what is encoded is decoded again;
* `Text.ofNat`, `Text.ofInt`: numbers in decimal digits.
-/

namespace KotlinPreferences

/-- A code point: a Unicode character or a surrogate. -/
inductive CodePoint where
  | scalar (c : Char)
  /-- The surrogate `U+D800 + n`. -/
  | surrogate (n : Fin 0x800)
  deriving DecidableEq

namespace CodePoint

instance : Coe Char CodePoint := ⟨scalar⟩

/-- The number of a code point. -/
def toNat : CodePoint → Nat
  | scalar c => c.toNat
  | surrogate n => 0xD800 + n

/-- The code point as a Unicode character; a surrogate is none. -/
def char? : CodePoint → Option Char
  | scalar c => some c
  | surrogate _ => none

@[simp] theorem toNat_scalar (c : Char) : (scalar c).toNat = c.toNat := rfl

@[simp] theorem char?_scalar (c : Char) : (scalar c).char? = some c := rfl

@[simp] theorem char?_surrogate (n : Fin 0x800) : (surrogate n).char? = none := rfl

end CodePoint

/-- A text. -/
structure Text where
  ofList ::
  /-- The code points of a text, in order. -/
  toList : List CodePoint
  deriving DecidableEq, Inhabited

namespace Text

theorem toList_injective {s t : Text} (h : s.toList = t.toList) : s = t := congrArg ofList h

theorem toList_inj {s t : Text} : s.toList = t.toList ↔ s = t :=
  ⟨toList_injective, congrArg toList⟩

@[simp] theorem toList_ofList (l : List CodePoint) : (ofList l).toList = l := rfl

@[simp] theorem ofList_toList (s : Text) : ofList s.toList = s := rfl

/-! ### Unicode strings -/

/-- A Unicode string as a text. The characters of an ASCII string are its bytes, which are quickly
read; any other string is read character by character. -/
def ofString (s : String) : Text :=
  let bytes := s.toByteArray.data.toList
  if bytes.all (· < 0x80) then ⟨bytes.map fun b => .scalar (Char.ofNat b.toNat)⟩
  else ⟨s.toList.map .scalar⟩

instance : Coe String Text := ⟨ofString⟩

/-- A character that is encoded in bytes below 0x80 is its only byte. -/
theorem map_utf8EncodeChar {c : Char} (h : ∀ b ∈ String.utf8EncodeChar c, b < 0x80) :
    (String.utf8EncodeChar c).map (fun b => Char.ofNat b.toNat) = [c] := by
  have hv : c.val.toNat ≤ 127 := by
    -- the first of several bytes is at least 0xC0
    have hbyte {n : Nat} (hlt : UInt8.ofNat n < 0x80) : n % 256 < 128 := by
      simpa [UInt8.lt_iff_toNat_lt] using hlt
    rw [String.utf8EncodeChar] at h
    split at h
    · assumption
    · split at h
      · have := hbyte (h _ List.mem_cons_self)
        omega
      · split at h
        · have := hbyte (h _ List.mem_cons_self)
          omega
        · have := hbyte (h _ List.mem_cons_self)
          omega
  have hbyte : (UInt8.ofNat c.val.toNat).toNat = c.val.toNat := by
    rw [UInt8.toNat_ofNat']
    omega
  simp only [String.utf8EncodeChar, hv, reduceIte, List.map_cons, List.map_nil, hbyte]
  exact congrArg (· :: []) (Char.ofNat_toNat c)

theorem map_flatMap_utf8EncodeChar {l : List Char}
    (h : ∀ b ∈ l.flatMap String.utf8EncodeChar, b < 0x80) :
    (l.flatMap String.utf8EncodeChar).map (fun b => Char.ofNat b.toNat) = l := by
  induction l with
  | nil => rfl
  | cons c rest ih =>
    rw [List.flatMap_cons] at h ⊢
    rw [List.map_append, map_utf8EncodeChar fun b hb => h b (List.mem_append_left _ hb),
      ih fun b hb => h b (List.mem_append_right _ hb), List.singleton_append]

@[simp] theorem toList_ofString (s : String) : (ofString s).toList = s.toList.map .scalar := by
  have hbytes : s.toByteArray.data.toList = s.toList.flatMap String.utf8EncodeChar := by
    simp [← String.utf8Encode_toList, List.utf8Encode]
  simp only [ofString, hbytes]
  split
  · rename_i h
    rw [List.all_eq_true] at h
    have hchars := map_flatMap_utf8EncodeChar fun b hb => by simpa using h b hb
    exact (List.map_map ..).symm.trans (congrArg (List.map CodePoint.scalar) hchars)
  · rfl

theorem ofString_injective {s t : String} (h : ofString s = ofString t) : s = t := by
  have hlist := congrArg toList h
  rw [toList_ofString, toList_ofString,
    List.map_inj_right fun _ _ => CodePoint.scalar.inj] at hlist
  exact String.toList_inj.1 hlist

@[simp] theorem ofString_inj {s t : String} : ofString s = ofString t ↔ s = t :=
  ⟨ofString_injective, congrArg ofString⟩

/-- The text as a Unicode string; a text with a surrogate is none. -/
def string? (s : Text) : Option String := (s.toList.mapM CodePoint.char?).map String.ofList

theorem mapM_char?_eq_some_iff {l : List CodePoint} {cs : List Char} :
    l.mapM CodePoint.char? = some cs ↔ l = cs.map .scalar := by
  induction l generalizing cs with
  | nil => cases cs <;> simp
  | cons c rest ih =>
    cases c with
    | surrogate n => cases cs <;> simp
    | scalar c =>
      cases cs with
      | nil => simp [Option.bind_eq_some_iff]
      | cons d ds =>
        simp only [List.mapM_cons, CodePoint.char?_scalar, Option.pure_def, Option.bind_eq_bind,
          Option.bind_some, Option.bind_eq_some_iff, ih, Option.some.injEq, List.cons.injEq,
          List.map_cons, CodePoint.scalar.injEq]
        constructor
        · rintro ⟨_, h, hc, rfl⟩
          exact ⟨hc, h⟩
        · rintro ⟨hc, h⟩
          exact ⟨ds, h, hc, rfl⟩

theorem string?_eq_some_iff {s : Text} {t : String} : s.string? = some t ↔ s = ofString t := by
  rw [string?, Option.map_eq_some_iff, ← toList_inj, toList_ofString]
  constructor
  · rintro ⟨cs, hcs, rfl⟩
    rw [mapM_char?_eq_some_iff.1 hcs, String.toList_ofList]
  · intro h
    exact ⟨t.toList, mapM_char?_eq_some_iff.2 h, String.ofList_toList⟩

@[simp] theorem string?_ofString (s : String) : (ofString s).string? = some s :=
  string?_eq_some_iff.2 rfl

/-- A text without surrogates. -/
def isUnicode (s : Text) : Bool := s.toList.all fun c => c.char?.isSome

theorem isUnicode_iff {s : Text} : s.isUnicode = true ↔ ∃ t, s = ofString t := by
  have hlist {l : List CodePoint} : (l.all fun c => c.char?.isSome) = true ↔
      ∃ cs : List Char, l = cs.map .scalar := by
    induction l with
    | nil => simp
    | cons c rest ih =>
      cases c with
      | surrogate n => simp [eq_comm (b := List.map _ _), List.map_eq_cons_iff]
      | scalar c =>
        rw [List.all_cons, CodePoint.char?_scalar, Option.isSome_some, Bool.true_and, ih]
        constructor
        · rintro ⟨cs, rfl⟩
          exact ⟨c :: cs, rfl⟩
        · rintro ⟨cs, h⟩
          cases cs with
          | nil => cases h
          | cons d ds => exact ⟨ds, (List.cons.inj h).2⟩
  rw [isUnicode, hlist]
  constructor
  · rintro ⟨cs, hcs⟩
    exact ⟨String.ofList cs, toList_injective (by simpa using hcs)⟩
  · rintro ⟨t, rfl⟩
    exact ⟨t.toList, toList_ofString t⟩

@[simp] theorem isUnicode_ofString (s : String) : (ofString s).isUnicode = true :=
  isUnicode_iff.2 ⟨s, rfl⟩

/-- The text with the ASCII capitals in lower case. -/
def toLower (s : Text) : Text :=
  ⟨s.toList.map fun
    | .scalar c => .scalar c.toLower
    | .surrogate n => .surrogate n⟩

/-! ### Joining -/

instance : Append Text := ⟨fun s t => ⟨s.toList ++ t.toList⟩⟩

@[simp] theorem toList_append (s t : Text) : (s ++ t).toList = s.toList ++ t.toList := rfl

@[simp] theorem isUnicode_append (s t : Text) :
    (s ++ t).isUnicode = (s.isUnicode && t.isUnicode) := List.all_append

theorem append_assoc (s t u : Text) : s ++ t ++ u = s ++ (t ++ u) :=
  toList_injective (List.append_assoc ..)

@[simp] theorem append_right_inj (s : Text) {t u : Text} : s ++ t = s ++ u ↔ t = u := by
  rw [← toList_inj, toList_append, toList_append, List.append_right_inj, toList_inj]

@[simp] theorem append_left_inj (u : Text) {s t : Text} : s ++ u = t ++ u ↔ s = t := by
  rw [← toList_inj, toList_append, toList_append, List.append_left_inj, toList_inj]

/-- The texts one behind another. -/
def join (texts : List Text) : Text := ⟨texts.flatMap toList⟩

@[simp] theorem toList_join (texts : List Text) : (join texts).toList = texts.flatMap toList := rfl

@[simp] theorem join_cons (s : Text) (texts : List Text) : join (s :: texts) = s ++ join texts :=
  toList_injective List.flatMap_cons

@[simp] theorem isUnicode_join (texts : List Text) : (join texts).isUnicode = texts.all isUnicode :=
  List.all_flatMap

/-- The texts one behind another, with a separator between them. -/
def intercalate (separator : Text) (texts : List Text) : Text :=
  ⟨List.intercalate separator.toList (texts.map toList)⟩

@[simp] theorem intercalate_singleton (separator s : Text) : intercalate separator [s] = s :=
  toList_injective (by simp [intercalate])

@[simp] theorem intercalate_cons_cons (separator s t : Text) (texts : List Text) :
    intercalate separator (s :: t :: texts) = s ++ separator ++ intercalate separator (t :: texts) :=
  toList_injective (by simp [intercalate, List.intercalate])

theorem isUnicode_intercalate {separator : Text} (hseparator : separator.isUnicode = true)
    {texts : List Text} (h : ∀ s ∈ texts, s.isUnicode = true) :
    (intercalate separator texts).isUnicode = true := by
  induction texts with
  | nil => rfl
  | cons s rest ih =>
    obtain ⟨hs, hrest⟩ := List.forall_mem_cons.1 h
    cases rest with
    | nil => rwa [intercalate_singleton]
    | cons t texts =>
      rw [intercalate_cons_cons, isUnicode_append, isUnicode_append, hs, hseparator, ih hrest]
      rfl

/-- A text without code points. -/
def isEmpty (s : Text) : Bool := s.toList.isEmpty

theorem ofList_eq_empty_iff {l : List CodePoint} : ofList l = "" ↔ l = [] := by
  simp [← toList_inj]

@[simp] theorem toList_eq_nil_iff {s : Text} : s.toList = [] ↔ s = "" := ofList_eq_empty_iff.symm

@[simp] theorem append_eq_empty_iff {s t : Text} : s ++ t = "" ↔ s = "" ∧ t = "" := by
  rw [← toList_eq_nil_iff, toList_append, List.append_eq_nil_iff, toList_eq_nil_iff,
    toList_eq_nil_iff]

/-! ### Order -/

instance : LT CodePoint := ⟨fun c d => c.toNat < d.toNat⟩

instance : DecidableLT CodePoint := fun c d => Nat.decLt c.toNat d.toNat

/-- Texts are ordered by the numbers of their code points, the first difference deciding. -/
instance : LE Text := ⟨fun s t => s.toList ≤ t.toList⟩

instance (s t : Text) : Decidable (s ≤ t) := inferInstanceAs (Decidable (s.toList ≤ t.toList))

/-! ### Bytes -/

/-- The bytes of a text in UTF-8; a text with a surrogate has none. -/
def encode? (s : Text) : Option ByteArray := s.string?.map String.toByteArray

/-- Just the texts without surrogates have an encoding. -/
theorem isSome_encode? (s : Text) : s.encode?.isSome = s.isUnicode := by
  cases h : s.string? with
  | some t => simp [encode?, string?_eq_some_iff.1 h]
  | none =>
    have hnot : ¬ s.isUnicode = true := fun hunicode => by
      obtain ⟨t, rfl⟩ := isUnicode_iff.1 hunicode
      simp at h
    simp [encode?, h, hnot]

/-- The text whose encoding some bytes are. -/
def decode? (bytes : ByteArray) : Option Text := (String.fromUTF8? bytes).map ofString

theorem decode?_of_encode? {s : Text} {bytes : ByteArray} (h : s.encode? = some bytes) :
    decode? bytes = some s := by
  obtain ⟨t, ht, rfl⟩ := Option.map_eq_some_iff.1 h
  rw [string?_eq_some_iff] at ht
  simp only [decode?, String.fromUTF8?]
  rw [dif_pos t.isValidUTF8, ht]
  rfl

/-! ### Numbers -/

/-- A number in decimal digits. -/
def ofNat (n : Nat) : Text := ⟨(Nat.toDigits 10 n).map .scalar⟩

/-- A whole number in decimal digits. -/
def ofInt : Int → Text
  | .ofNat n => ofNat n
  | .negSucc n => "-" ++ ofNat (n + 1)

end Text

end KotlinPreferences
