import KotlinPreferences.Text

/-!
# Ranges of characters

* `inRanges`: a character class given by ranges of code points, both ends included.
-/

namespace KotlinPreferences.Text

/-- Membership in one of the ranges, both ends included. -/
def inRanges (ranges : List (Nat × Nat)) (c : CodePoint) : Bool :=
  ranges.any fun range => range.1 ≤ c.toNat && c.toNat ≤ range.2

theorem inRanges_iff {ranges : List (Nat × Nat)} {c : CodePoint} :
    inRanges ranges c = true ↔ ∃ range ∈ ranges, range.1 ≤ c.toNat ∧ c.toNat ≤ range.2 := by
  simp [inRanges]

end KotlinPreferences.Text
