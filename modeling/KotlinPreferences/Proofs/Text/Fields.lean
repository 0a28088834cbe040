import KotlinPreferences.Text.Fields
import Mathlib.Data.List.Basic

/-!
# Fields of a text that is put together

* `fields_append`, `fields_of_notMem`: the fields of two texts with a separator between them, and of a
  text without one;
* `of_mem_fields`: what a field consists of;
* `append_cons_inj_of_notMem`: a text is cut at its first separator in one way only.
-/

namespace KotlinPreferences.Text

variable {separator : CodePoint} {s f : List CodePoint}

theorem fields_append (separator : CodePoint) (s t : List CodePoint) :
    fields separator (s ++ separator :: t) = fields separator s ++ fields separator t := by
  induction s with
  | nil => simp [fields]
  | cons c rest ih =>
    rw [List.cons_append, fields, fields, ih]
    split
    · rfl
    · cases hfields : fields separator rest with
      | nil => exact absurd hfields (fields_ne_nil separator rest)
      | cons field further => rfl

theorem fields_of_notMem (h : separator ∉ s) : fields separator s = [s] := by
  induction s with
  | nil => rfl
  | cons c rest ih =>
    rw [List.mem_cons, not_or] at h
    rw [fields, if_neg (Ne.symm h.1), ih h.2]

/-- The characters of a field are characters of the text, and none of them is the separator. -/
theorem of_mem_fields (hf : f ∈ fields separator s) : separator ∉ f ∧ ∀ c ∈ f, c ∈ s := by
  induction s generalizing f with
  | nil =>
    rw [fields, List.mem_singleton] at hf
    simp [hf]
  | cons c rest ih =>
    rw [fields] at hf
    split at hf
    · rcases List.mem_cons.1 hf with rfl | hf
      · simp
      · obtain ⟨hnot, hall⟩ := ih hf
        exact ⟨hnot, fun d hd => List.mem_cons_of_mem _ (hall d hd)⟩
    · rename_i hc
      cases hfields : fields separator rest with
      | nil => exact absurd hfields (fields_ne_nil separator rest)
      | cons field further =>
        rw [hfields] at hf ih
        rcases List.mem_cons.1 hf with rfl | hf
        · -- the first field has grown by a character that is not the separator
          obtain ⟨hnot, hall⟩ := ih List.mem_cons_self
          constructor
          · simp [Ne.symm hc, hnot]
          · intro d hd
            exact (List.mem_cons.1 hd).elim (fun h => by simp [h])
              fun h => List.mem_cons_of_mem _ (hall d h)
        · obtain ⟨hnot, hall⟩ := ih (List.mem_cons_of_mem _ hf)
          exact ⟨hnot, fun d hd => List.mem_cons_of_mem _ (hall d hd)⟩

/-- A text is cut at its first separator in one way only. -/
theorem append_cons_inj_of_notMem {s s' t t' : List CodePoint} (hs : separator ∉ s)
    (hs' : separator ∉ s') (h : s ++ separator :: t = s' ++ separator :: t') : s = s' ∧ t = t' := by
  have hfields := congrArg (fields separator) h
  rw [fields_append, fields_append, fields_of_notMem hs, fields_of_notMem hs'] at hfields
  obtain rfl : s = s' := (List.cons.inj hfields).1
  exact ⟨rfl, (List.cons.inj (List.append_cancel_left h)).2⟩

end KotlinPreferences.Text
