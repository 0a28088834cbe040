import KotlinPreferences.Text

/-!
# Fields of a text

* `fields`: a text cut at every place of a separator;
* `intercalate_fields`: joined again by the separator, the fields are the text.
-/

namespace KotlinPreferences.Text

/-- The text cut at every separator; a text without one is its only field. -/
def fields (separator : CodePoint) : List CodePoint → List (List CodePoint)
  | [] => [[]]
  | c :: rest =>
    if c = separator then [] :: fields separator rest
    else
      match fields separator rest with
      | [] => [[c]]
      | field :: further => (c :: field) :: further

theorem fields_ne_nil (separator : CodePoint) (s : List CodePoint) : fields separator s ≠ [] := by
  cases s with
  | nil => simp [fields]
  | cons c rest =>
    rw [fields]
    split
    · simp
    · split <;> simp

theorem intercalate_fields (separator : CodePoint) (s : List CodePoint) :
    List.intercalate [separator] (fields separator s) = s := by
  induction s with
  | nil => simp [fields, List.intercalate]
  | cons c rest ih =>
    rw [fields]
    have hne := fields_ne_nil separator rest
    split
    · rename_i hc
      rw [hc]
      cases h : fields separator rest with
      | nil => exact absurd h hne
      | cons field further =>
        rw [h] at ih
        rw [← ih]
        simp [List.intercalate, List.intersperse]
    · split
      · exact absurd ‹_› hne
      · rename_i field further h
        rw [h] at ih
        rw [← ih]
        cases further <;> simp [List.intercalate, List.intersperse]

end KotlinPreferences.Text
