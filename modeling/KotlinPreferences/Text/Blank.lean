import KotlinPreferences.Text.Ranges

/-!
# Blanks

White space is every character with the Unicode property `White_Space` and the four information
separators U+001C to U+001F. A zero-width space or a byte order mark is none.

* `isBlank`, and `trim`, `trimEnd` that drop blanks from the ends of a text;
* `trim_length_le`, `trimEnd_length_le`: trimming never makes a text longer.
-/

namespace KotlinPreferences.Text

/-- The ranges of the blanks, in increasing order. -/
def blankRanges : List (Nat × Nat) :=
  [(0x09, 0x0D), (0x1C, 0x20), (0x85, 0x85), (0xA0, 0xA0), (0x1680, 0x1680), (0x2000, 0x200A),
    (0x2028, 0x2029), (0x202F, 0x202F), (0x205F, 0x205F), (0x3000, 0x3000)]

/-- White space. -/
def isBlank (c : CodePoint) : Bool := inRanges blankRanges c

/-- The text without the blanks at its end. -/
def trimEnd (s : List CodePoint) : List CodePoint := (s.reverse.dropWhile isBlank).reverse

/-- The text without the blanks at its two ends. -/
def trim (s : List CodePoint) : List CodePoint := trimEnd (s.dropWhile isBlank)

theorem trimEnd_length_le (s : List CodePoint) : (trimEnd s).length ≤ s.length := by
  have h := (List.dropWhile_sublist (l := s.reverse) isBlank).length_le
  simpa [trimEnd] using h

theorem trim_length_le (s : List CodePoint) : (trim s).length ≤ s.length :=
  Nat.le_trans (trimEnd_length_le _) (List.dropWhile_sublist isBlank).length_le

/-- A text of blanks only. -/
def isBlankText (s : List CodePoint) : Bool := s.all isBlank

end KotlinPreferences.Text
