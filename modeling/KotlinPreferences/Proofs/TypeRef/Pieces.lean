import KotlinPreferences.TypeRef.Reader

/-!
# Cutting a text at its outer commas

The text between two angle brackets is cut at the commas of depth zero, so a text whose brackets
match passes whole into one piece.

* `Neutral`: such a text, from some depth on;
* `Neutral.append`, `Neutral.bracketed`, `neutral_intercalate`: how such texts are put together;
* `pieces_intercalate`: texts joined by commas are cut into those texts again.
-/

namespace KotlinPreferences.TypeRef

variable {c : CodePoint} {s t : List CodePoint} {least : Nat}

/-- From some depth on, a text passes whole into the piece in which it stands, and what follows it
is cut as if the text were not there. -/
def Neutral (least : Nat) (s : List CodePoint) : Prop :=
  ∀ depth, least ≤ depth → ∀ rest,
    pieces depth (s ++ rest) = (pieces depth rest).map fun ps => s.foldr onFirst ps

theorem foldr_onFirst (s p : List CodePoint) (ps : List (List CodePoint)) :
    s.foldr onFirst (p :: ps) = (s ++ p) :: ps := by
  induction s with
  | nil => rfl
  | cons c rest ih => rw [List.foldr_cons, ih, onFirst, List.cons_append]

theorem Neutral.nil : Neutral least [] := by
  intro depth _ rest
  simp

theorem Neutral.append (hs : Neutral least s) (ht : Neutral least t) : Neutral least (s ++ t) := by
  intro depth hdepth rest
  rw [List.append_assoc, hs depth hdepth, ht depth hdepth, Option.map_map]
  simp only [Function.comp_def, List.foldr_append]

theorem Neutral.mono {more : Nat} (h : Neutral least s) (hle : least ≤ more) : Neutral more s :=
  fun depth hdepth => h depth (Nat.le_trans hle hdepth)

/-- A character that is no bracket and no comma. -/
theorem neutral_singleton (hopen : c ≠ '<') (hclose : c ≠ '>') (hcomma : c ≠ ',') :
    Neutral least [c] := by
  intro depth _ rest
  rw [List.singleton_append, pieces, if_neg hopen, if_neg hclose, if_neg fun h => hcomma h.1]
  rfl

theorem neutral_of_forall (h : ∀ c ∈ s, c ≠ '<' ∧ c ≠ '>' ∧ c ≠ ',') : Neutral least s := by
  induction s with
  | nil => exact .nil
  | cons c rest ih =>
    obtain ⟨hopen, hclose, hcomma⟩ := h c (by simp)
    exact (neutral_singleton hopen hclose hcomma).append (ih fun d hd => h d (by simp [hd]))

/-- Below the outermost depth a comma does not cut. -/
theorem neutral_comma : Neutral 1 [CodePoint.scalar ','] := by
  intro depth hdepth rest
  have hpos : depth ≠ 0 := by omega
  rw [List.singleton_append, pieces, if_neg (by decide), if_neg (by decide),
    if_neg fun h => hpos h.2]
  rfl

/-- Brackets keep the commas between them from the outside. -/
theorem Neutral.bracketed (h : Neutral 1 s) : Neutral 0 (.scalar '<' :: s ++ [CodePoint.scalar '>']) := by
  intro depth _ rest
  have hopen : pieces depth (.scalar '<' :: (s ++ .scalar '>' :: rest)) =
      (pieces (depth + 1) (s ++ .scalar '>' :: rest)).map (onFirst '<') := by
    rw [pieces, if_pos rfl]
  have hclose : pieces (depth + 1) (.scalar '>' :: rest) = (pieces depth rest).map (onFirst '>') := by
    rw [pieces, if_neg (by decide), if_pos rfl, if_neg (Nat.succ_ne_zero depth), Nat.add_sub_cancel]
  have htext : .scalar '<' :: s ++ [CodePoint.scalar '>'] ++ rest = .scalar '<' :: (s ++ .scalar '>' :: rest) := by simp
  rw [htext, hopen, h (depth + 1) (by omega), hclose, Option.map_map, Option.map_map]
  simp only [Function.comp_def, List.cons_append, List.foldr_cons, List.foldr_append,
    List.foldr_nil]

/-! ### Texts joined by commas -/

theorem neutral_intercalate {parts : List (List CodePoint)} (h : ∀ p ∈ parts, Neutral 0 p) :
    Neutral 1 (List.intercalate [CodePoint.scalar ','] parts) := by
  induction parts with
  | nil => exact .nil
  | cons p rest ih =>
    have hp : Neutral 1 p := (h p (by simp)).mono (Nat.zero_le 1)
    cases rest with
    | nil => simpa [List.intercalate] using hp
    | cons q more =>
      rw [List.intercalate_cons_cons]
      exact (hp.append neutral_comma).append (ih fun r hr => h r (by simp [hr]))

/-- Texts joined by commas are cut into those texts again. -/
theorem pieces_intercalate {parts : List (List CodePoint)} (hne : parts ≠ [])
    (h : ∀ p ∈ parts, Neutral 0 p) : pieces 0 (List.intercalate [CodePoint.scalar ','] parts) = some parts := by
  induction parts with
  | nil => exact absurd rfl hne
  | cons p rest ih =>
    have hp := h p (by simp)
    cases rest with
    | nil =>
      have hend : pieces 0 [] = some [[]] := by rw [pieces, if_pos rfl]
      have hpiece := hp 0 (Nat.le_refl 0) []
      rw [List.append_nil, hend, Option.map_some, foldr_onFirst, List.append_nil] at hpiece
      simpa [List.intercalate] using hpiece
    | cons q more =>
      have hmore := ih (by simp) fun r hr => h r (by simp [hr])
      have hcomma : pieces 0 (.scalar ',' :: List.intercalate [CodePoint.scalar ','] (q :: more)) =
          some ([] :: q :: more) := by
        rw [pieces, if_neg (by decide), if_neg (by decide), if_pos ⟨rfl, rfl⟩, hmore]
        rfl
      rw [List.intercalate_cons_cons, List.append_assoc, List.singleton_append,
        hp 0 (Nat.le_refl 0), hcomma, Option.map_some, foldr_onFirst, List.append_nil]

end KotlinPreferences.TypeRef
