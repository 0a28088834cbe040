import KotlinPreferences.Text.Blank
import Mathlib.Data.List.TakeWhile

/-!
# Trimming a text with blanks around it

* `Trimmed`: no blank stands at either end of a text;
* `trim_of_blanks_around`, `trimEnd_append_of_blanks`: trimming takes away the blanks around such a
  text and nothing else;
* `trimmed_trim`, `trimmed_trimEnd`: what is left has none;
* `exists_blanks_around`, `exists_blanks_behind`: what was taken away are blanks;
* `Trimmed.append`, `Trimmed.isBlankText_eq_false`, `trim_ne_nil`: when such a text is empty, and two
  of them in a row.
-/

namespace KotlinPreferences.Text

/-- Neither the first nor the last character of a text is a blank. -/
structure Trimmed (s : List CodePoint) : Prop where
  head : ∀ c ∈ s.head?, isBlank c = false
  last : ∀ c ∈ s.getLast?, isBlank c = false

variable {s before after : List CodePoint}

theorem dropWhile_isBlank_of_head (h : ∀ c ∈ s.head?, isBlank c = false) :
    s.dropWhile isBlank = s := by
  cases s with
  | nil => rfl
  | cons c rest => rw [List.dropWhile_cons_of_neg (by simpa using h c rfl)]

theorem trimEnd_of_last (h : ∀ c ∈ s.getLast?, isBlank c = false) : trimEnd s = s := by
  rw [trimEnd, dropWhile_isBlank_of_head (by simpa using h), List.reverse_reverse]

theorem trimEnd_append_of_blanks (h : ∀ c ∈ s.getLast?, isBlank c = false)
    (hafter : isBlankText after = true) : trimEnd (s ++ after) = s := by
  have hblanks : ∀ c ∈ after.reverse, isBlank c = true := by simpa [isBlankText] using hafter
  rw [trimEnd, List.reverse_append, List.dropWhile_append_of_pos hblanks]
  exact trimEnd_of_last h

/-- Trimming takes the blanks around a text away, and leaves the text. -/
theorem trim_of_blanks_around (hs : Trimmed s) (hbefore : isBlankText before = true)
    (hafter : isBlankText after = true) : trim (before ++ s ++ after) = s := by
  have hblanks : ∀ c ∈ before, isBlank c = true := by simpa [isBlankText] using hbefore
  rw [trim, List.append_assoc, List.dropWhile_append_of_pos hblanks]
  cases s with
  | nil =>
    have hall : ∀ c ∈ after, isBlank c = true := by simpa [isBlankText] using hafter
    rw [List.nil_append, List.dropWhile_eq_nil_iff.2 hall]
    rfl
  | cons c rest =>
    rw [List.cons_append, List.dropWhile_cons_of_neg (by simpa using hs.head c rfl)]
    exact trimEnd_append_of_blanks hs.last hafter

theorem trim_of_trimmed (hs : Trimmed s) : trim s = s := by
  have h : trim ([] ++ s ++ []) = s := trim_of_blanks_around hs rfl rfl
  rwa [List.nil_append, List.append_nil] at h

/-- The first character of a text is that of every longer one. -/
theorem mem_head?_of_isPrefix (h : s <+: t) {c : CodePoint} (hc : c ∈ s.head?) : c ∈ t.head? := by
  obtain ⟨rest, rfl⟩ := h
  cases s with
  | nil => cases hc
  | cons d more => exact hc

theorem trimEnd_isPrefix (s : List CodePoint) : trimEnd s <+: s := by
  have h := (List.dropWhile_suffix isBlank (l := s.reverse)).reverse
  rwa [List.reverse_reverse] at h

theorem head_dropWhile_isBlank (s : List CodePoint) :
    ∀ c ∈ (s.dropWhile isBlank).head?, isBlank c = false := by
  intro c hc
  have h := List.head?_dropWhile_not isBlank s
  rw [Option.mem_def.1 hc] at h
  exact h

/-- Trimming the end of a text that starts with no blank leaves no blank at either end. -/
theorem trimmed_trimEnd (h : ∀ c ∈ s.head?, isBlank c = false) : Trimmed (trimEnd s) where
  head c hc := h c (mem_head?_of_isPrefix (trimEnd_isPrefix s) hc)
  last := by
    rw [trimEnd, List.getLast?_reverse]
    exact head_dropWhile_isBlank s.reverse

theorem trimmed_trim (s : List CodePoint) : Trimmed (trim s) :=
  trimmed_trimEnd (head_dropWhile_isBlank s)

theorem exists_blanks_behind (s : List CodePoint) :
    ∃ after, s = trimEnd s ++ after ∧ isBlankText after = true := by
  refine ⟨(s.reverse.takeWhile isBlank).reverse, ?_, ?_⟩
  · rw [trimEnd, ← List.reverse_append, List.takeWhile_append_dropWhile, List.reverse_reverse]
  · rw [isBlankText, List.all_reverse, List.all_takeWhile]

/-- Only blanks are taken away when a text is trimmed. -/
theorem exists_blanks_around (s : List CodePoint) : ∃ before after, s = before ++ trim s ++ after ∧
    isBlankText before = true ∧ isBlankText after = true := by
  obtain ⟨after, hafter, hblanks⟩ := exists_blanks_behind (s.dropWhile isBlank)
  refine ⟨s.takeWhile isBlank, after, ?_, List.all_takeWhile, hblanks⟩
  rw [trim, List.append_assoc, ← hafter, List.takeWhile_append_dropWhile]

/-! ### Texts without outer blanks -/

theorem Trimmed.append {r : List CodePoint} (hs : Trimmed s) (hr : Trimmed r) : Trimmed (s ++ r) where
  head c hc := by
    cases s with
    | nil => exact hr.head c hc
    | cons d rest => exact hs.head c hc
  last c hc := by
    rw [List.getLast?_append] at hc
    cases hlast : r.getLast? with
    | none =>
      rw [hlast, Option.none_or] at hc
      exact hs.last c hc
    | some d =>
      rw [hlast, Option.some_or] at hc
      exact hr.last c (hlast ▸ hc)

theorem Trimmed.isBlankText_eq_false (hs : Trimmed s) (hne : s ≠ []) : isBlankText s = false := by
  obtain ⟨c, rest, rfl⟩ := List.exists_cons_of_ne_nil hne
  rw [isBlankText, List.all_cons, hs.head c rfl, Bool.false_and]

theorem trim_ne_nil (h : isBlankText s = false) : trim s ≠ [] := by
  intro hnil
  obtain ⟨before, after, hs, hbefore, hafter⟩ := exists_blanks_around s
  rw [isBlankText] at hbefore hafter h
  rw [hs, hnil, List.append_nil, List.all_append, hbefore, hafter] at h
  cases h

end KotlinPreferences.Text
