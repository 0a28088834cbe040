import KotlinPreferences.Kotlin.Literal
import Mathlib.Data.List.Basic
import Mathlib.Tactic.SplitIfs

/-!
# Reading string literals back

A Kotlin compiler reads a string literal from its opening quote up to the first quote that is not
escaped. Every character of it stands for itself, but for the escapes and what is not allowed there.

* `replacements`, `replaceAll`: escaping as replacements in a whole text, one after another;
* `toList_escape`: together they replace each character on its own, as `escape` does;
* `readLiteral`: a string literal at the beginning of a text;
* `readLiteral_escape`: an escaped text between quotes is read back, up to its closing quote.
-/

namespace KotlinPreferences.Kotlin

/-! ### One replacement after another -/

/-- The text with another text in every place of a character. -/
def replaceAll (s : List CodePoint) (replacement : CodePoint × List CodePoint) : List CodePoint :=
  s.flatMap fun c => if c = replacement.1 then replacement.2 else [c]

/-- What is replaced in a text to escape it, in order. The backslash comes first, since the other
replacements bring in backslashes of their own. -/
def replacements : List (CodePoint × List CodePoint) :=
  [('\\', ['\\', '\\']), ('"', ['\\', '"']), ('$', ['\\', '$']), ('\n', ['\\', 'n']),
    ('\r', ['\\', 'r']), ('\t', ['\\', 't'])]

theorem replaceAll_flatMap (s : List CodePoint) (f : CodePoint → List CodePoint)
    (replacement : CodePoint × List CodePoint) :
    replaceAll (s.flatMap f) replacement = s.flatMap fun c => replaceAll (f c) replacement :=
  List.flatMap_assoc

/-- Replacements one after another treat each character of a text on its own. -/
theorem foldl_replaceAll_flatMap (rs : List (CodePoint × List CodePoint)) (s : List CodePoint)
    (f : CodePoint → List CodePoint) :
    rs.foldl replaceAll (s.flatMap f) = s.flatMap fun c => rs.foldl replaceAll (f c) := by
  induction rs generalizing f with
  | nil => rfl
  | cons replacement rest ih =>
    simp only [List.foldl_cons]
    rw [replaceAll_flatMap, ih]

theorem replaceAll_singleton (c : CodePoint) (replacement : CodePoint × List CodePoint) :
    replaceAll [c] replacement = if c = replacement.1 then replacement.2 else [c] := by
  simp [replaceAll]

/-- What becomes of a single character is not replaced again. -/
theorem foldl_replaceAll_singleton (c : CodePoint) :
    replacements.foldl replaceAll [c] = escapeChar c := by
  unfold escapeChar
  split_ifs with hbackslash hquote hdollar hnewline hreturn htab
  · subst hbackslash
    decide
  · subst hquote
    decide
  · subst hdollar
    decide
  · subst hnewline
    decide
  · subst hreturn
    decide
  · subst htab
    decide
  · simp only [replacements, List.foldl_cons, List.foldl_nil, replaceAll_singleton, if_neg, *,
      not_false_eq_true]

/-- Escaping replaces in the whole text, one character after another. -/
theorem toList_escape (s : Text) :
    (escape s).toList = replacements.foldl replaceAll s.toList := by
  have hsingle := foldl_replaceAll_flatMap replacements s.toList fun c => [c]
  rw [List.flatMap_singleton'] at hsingle
  rw [escape, Text.toList_ofList, hsingle]
  exact List.flatMap_congr fun c _ => (foldl_replaceAll_singleton c).symm

/-! ### String literals -/

/-- What a character behind a backslash stands for. -/
def escaped? : CodePoint → Option CodePoint
  | .scalar 't' => some (.scalar '\t')
  | .scalar 'b' => some (.scalar '\x08')
  | .scalar 'n' => some (.scalar '\n')
  | .scalar 'r' => some (.scalar '\r')
  | .scalar '\x27' => some (.scalar '\x27')
  | .scalar '"' => some (.scalar '"')
  | .scalar '\\' => some (.scalar '\\')
  | .scalar '$' => some (.scalar '$')
  | _ => none

/-- A hexadecimal digit. -/
def hexDigit? (c : CodePoint) : Option Nat :=
  let n := c.toNat
  if '0'.toNat ≤ n ∧ n ≤ '9'.toNat then some (n - '0'.toNat)
  else if 'a'.toNat ≤ n ∧ n ≤ 'f'.toNat then some (n - 'a'.toNat + 10)
  else if 'A'.toNat ≤ n ∧ n ≤ 'F'.toNat then some (n - 'A'.toNat + 10)
  else none

/-- The code point that four hexadecimal digits stand for; it may be a surrogate. -/
def hexCodePoint? (a b c d : CodePoint) : Option CodePoint := do
  let a ← hexDigit? a
  let b ← hexDigit? b
  let c ← hexDigit? c
  let d ← hexDigit? d
  let n := ((a * 16 + b) * 16 + c) * 16 + d
  pure (if h : 0xD800 ≤ n ∧ n < 0xE000 then .surrogate ⟨n - 0xD800, by omega⟩
    else .scalar (Char.ofNat n))

/-- A literal behind its opening quote: the code points that it stands for, and what follows its
closing quote. Line breaks end no literal and stand in none, and a dollar sign would start a
template. -/
def readChars : List CodePoint → Option (List CodePoint × List CodePoint)
  | [] => none
  | .scalar '"' :: rest => some ([], rest)
  | .scalar '\\' :: .scalar 'u' :: a :: b :: c :: d :: rest => do
    let denoted ← hexCodePoint? a b c d
    let (more, left) ← readChars rest
    pure (denoted :: more, left)
  | .scalar '\\' :: c :: rest => do
    let denoted ← escaped? c
    let (more, left) ← readChars rest
    pure (denoted :: more, left)
  | c :: rest =>
    if c = '\\' ∨ c = '$' ∨ c = '\n' ∨ c = '\r' then none
    else do
      let (more, left) ← readChars rest
      pure (c :: more, left)

/-- A string literal at the beginning of a text: what it stands for, and what follows. -/
def readLiteral : List CodePoint → Option (List CodePoint × List CodePoint)
  | .scalar '"' :: rest => readChars rest
  | _ => none

/-- A backslash and the character behind it are read as the character that they denote. -/
theorem readChars_escaped {c denoted : CodePoint} (h : escaped? c = some denoted)
    (text : List CodePoint) :
    readChars (.scalar '\\' :: c :: text) =
      (readChars text).map fun read => (denoted :: read.1, read.2) := by
  have hunit : c ≠ 'u' := by
    rintro rfl
    simp [escaped?] at h
  cases hread : readChars text <;> simp [readChars, hunit, h, hread]

/-- An escaped character is read as that character. -/
theorem readChars_escapeChar (c : CodePoint) (text : List CodePoint) :
    readChars (escapeChar c ++ text) =
      (readChars text).map fun read => (c :: read.1, read.2) := by
  unfold escapeChar
  split_ifs with hbackslash hquote hdollar hnewline hreturn htab
  · subst hbackslash
    exact readChars_escaped rfl text
  · subst hquote
    exact readChars_escaped rfl text
  · subst hdollar
    exact readChars_escaped rfl text
  · subst hnewline
    exact readChars_escaped rfl text
  · subst hreturn
    exact readChars_escaped rfl text
  · subst htab
    exact readChars_escaped rfl text
  · cases h : readChars text <;> simp [readChars, *]

/-- An escaped text is read up to the quote behind it. -/
theorem readChars_flatMap_escapeChar (s rest : List CodePoint) :
    readChars (s.flatMap escapeChar ++ .scalar '"' :: rest) = some (s, rest) := by
  induction s with
  | nil => simp [readChars]
  | cons c more ih =>
    rw [List.flatMap_cons, List.append_assoc, readChars_escapeChar, ih]
    rfl

/-- **Escaped literals are read back.** Escaping a text means to replace some characters in it, one
after another. Whatever follows it, the text escaped between quotes is read as a literal up to its
closing quote, and the literal stands for the text. -/
theorem readLiteral_escape (v r : Text) :
    (escape v).toList = replacements.foldl replaceAll v.toList ∧
    readLiteral ("\"" ++ escape v ++ "\"" ++ r).toList = some (v.toList, r.toList) := by
  refine ⟨toList_escape v, ?_⟩
  have htext : ("\"" ++ escape v ++ "\"" ++ r).toList =
      .scalar '"' :: (v.toList.flatMap escapeChar ++ .scalar '"' :: r.toList) := by
    simp [escape]
  rw [htext, readLiteral, readChars_flatMap_escapeChar]

end KotlinPreferences.Kotlin
