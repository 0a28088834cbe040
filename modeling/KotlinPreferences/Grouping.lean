/-!
# Grouping a list

* `distinct`: a list without repetitions, each element at the place where it comes up first;
* `distinctOn`: the first element of each key;
* `grouped`: a list with the entries of one key together, keys in the order of their first entries;
* `mem_distinct`, `nodup_distinct`, `mem_grouped`: nothing is lost, added or, for `distinct`,
  repeated;
* `distinctOn_concat`, `distinct_concat`: lists that grow at their ends;
* `filter_distinct`, `filter_grouped`: both go past a selection.
-/

namespace KotlinPreferences

/-- The distinct elements of a list, each at the place where it comes up first. -/
def distinct {α : Type} [DecidableEq α] : List α → List α
  | [] => []
  | a :: rest => a :: (distinct rest).filter (· ≠ a)

theorem mem_distinct {α : Type} [DecidableEq α] {a : α} {l : List α} : a ∈ distinct l ↔ a ∈ l := by
  induction l with
  | nil => simp [distinct]
  | cons b rest ih =>
    by_cases h : a = b
    · simp [distinct, h]
    · simp [distinct, ih, h]

theorem nodup_distinct {α : Type} [DecidableEq α] (l : List α) : (distinct l).Nodup := by
  induction l with
  | nil => simp [distinct]
  | cons a rest ih =>
    rw [distinct, List.nodup_cons]
    exact ⟨by simp, ih.filter _⟩

/-- The first element of each key. -/
def distinctOn {α κ : Type} [DecidableEq κ] (key : α → κ) : List α → List α
  | [] => []
  | a :: rest => a :: (distinctOn key rest).filter fun b => key b ≠ key a

theorem map_distinctOn {α κ : Type} [DecidableEq κ] (key : α → κ) (l : List α) :
    (distinctOn key l).map key = distinct (l.map key) := by
  induction l with
  | nil => rfl
  | cons a rest ih =>
    rw [distinctOn, List.map_cons, List.map_cons, distinct, ← ih, List.filter_map]
    rfl

theorem mem_of_mem_distinctOn {α κ : Type} [DecidableEq κ] {key : α → κ} {l : List α} {a : α}
    (h : a ∈ distinctOn key l) : a ∈ l := by
  induction l with
  | nil => exact h
  | cons b rest ih =>
    rw [distinctOn, List.mem_cons, List.mem_filter] at h
    rcases h with rfl | ⟨hrest, -⟩
    · exact List.mem_cons_self
    · exact List.mem_cons_of_mem _ (ih hrest)

/-- An element at the end is kept only if its key has not come up before. -/
theorem distinctOn_concat {α κ : Type} [DecidableEq κ] (key : α → κ) (l : List α) (a : α) :
    distinctOn key (l ++ [a]) =
      if key a ∈ l.map key then distinctOn key l else distinctOn key l ++ [a] := by
  induction l with
  | nil => simp [distinctOn]
  | cons b rest ih =>
    rw [List.cons_append, distinctOn, ih, List.map_cons, distinctOn]
    by_cases hrest : key a ∈ rest.map key
    · rw [if_pos hrest, if_pos (List.mem_cons_of_mem _ hrest)]
    · by_cases hb : key a = key b
      · rw [if_neg hrest, if_pos (hb ▸ List.mem_cons_self), List.filter_append]
        simp [hb]
      · have hne : key a ∉ key b :: rest.map key := by simp [hb, hrest]
        rw [if_neg hrest, if_neg hne, List.filter_append]
        simp [hb]

theorem distinct_concat {α : Type} [DecidableEq α] (l : List α) (a : α) :
    distinct (l ++ [a]) = if a ∈ l then distinct l else distinct l ++ [a] := by
  have hid : ∀ l : List α, distinct l = distinctOn id l := fun l => by
    simpa using (map_distinctOn id l).symm
  simpa [hid] using distinctOn_concat id l a

/-- The first element of a key is kept. -/
theorem find?_distinctOn {α κ : Type} [DecidableEq κ] (key : α → κ) (l : List α) (k : κ) :
    (distinctOn key l).find? (fun a => key a = k) = l.find? fun a => key a = k := by
  induction l with
  | nil => rfl
  | cons a rest ih =>
    rw [distinctOn, List.find?_cons, List.find?_cons]
    by_cases ha : key a = k
    · simp [ha]
    · -- what the filter takes out does not have the key that is looked for
      have hkeeps : ∀ b, (key b ≠ key a ∧ key b = k) ↔ key b = k := fun b =>
        ⟨fun h => h.2, fun h => ⟨fun hab => ha (hab.symm.trans h), h⟩⟩
      simp only [ha, decide_false, List.find?_filter, decide_eq_true_eq, hkeeps, ih]

/-- The list with the entries of one key together, keys in the order of their first entries. -/
def grouped {α κ : Type} [DecidableEq κ] (key : α → κ) (l : List α) : List α :=
  (distinct (l.map key)).flatMap fun k => l.filter fun a => key a = k

theorem mem_grouped {α κ : Type} [DecidableEq κ] {key : α → κ} {l : List α} {a : α} :
    a ∈ grouped key l ↔ a ∈ l := by
  simp only [grouped, List.mem_flatMap, mem_distinct, List.mem_map, List.mem_filter,
    decide_eq_true_eq]
  constructor
  · rintro ⟨_, _, h, _⟩
    exact h
  · intro h
    exact ⟨key a, ⟨a, h, rfl⟩, h, rfl⟩

/-- Elements that contribute nothing to a list of lists can be left out. -/
theorem flatMap_filter_of_nil {α β : Type} {p : α → Bool} {f : α → List β} {l : List α}
    (h : ∀ a ∈ l, p a = false → f a = []) : l.flatMap f = (l.filter p).flatMap f := by
  induction l with
  | nil => rfl
  | cons a rest ih =>
    obtain ⟨ha, hrest⟩ := List.forall_mem_cons.1 h
    rw [List.flatMap_cons, ih hrest]
    cases hp : p a with
    | false => rw [ha hp, List.filter_cons_of_neg (by simp [hp]), List.nil_append]
    | true => rw [List.filter_cons_of_pos hp, List.flatMap_cons]

theorem filter_distinct {α : Type} [DecidableEq α] (p : α → Bool) (l : List α) :
    (distinct l).filter p = distinct (l.filter p) := by
  induction l with
  | nil => rfl
  | cons a rest ih =>
    cases ha : p a with
    | true =>
      rw [distinct, List.filter_cons_of_pos ha, List.filter_cons_of_pos ha, distinct, ← ih,
        List.filter_filter, List.filter_filter]
      simp only [Bool.and_comm]
    | false =>
      rw [distinct, List.filter_cons_of_neg (by simp [ha]), List.filter_cons_of_neg (by simp [ha]),
        List.filter_filter, ← ih]
      -- what is repeated is taken out in any case
      refine List.filter_congr fun b _ => ?_
      by_cases hb : b = a
      · simp [hb, ha]
      · simp [hb]

/-- Grouping goes past a selection that is the same for all entries of one key. -/
theorem filter_grouped {α κ : Type} [DecidableEq κ] {key : α → κ} {p : α → Bool} {l : List α}
    (h : ∀ a ∈ l, ∀ b ∈ l, key a = key b → p a = p b) :
    (grouped key l).filter p = grouped key (l.filter p) := by
  -- a key is selected if one of its entries is, and then all of them are
  let selected : κ → Bool := fun k => l.any fun a => key a = k && p a
  have hselected : ∀ a ∈ l, selected (key a) = p a := by
    intro a ha
    rw [Bool.eq_iff_iff, List.any_eq_true]
    constructor
    · rintro ⟨b, hb, hboth⟩
      rw [Bool.and_eq_true, decide_eq_true_eq] at hboth
      exact h b hb a ha hboth.1 ▸ hboth.2
    · intro hp
      exact ⟨a, ha, by simpa using hp⟩
  have hkeys : (l.filter p).map key = (l.map key).filter selected := by
    rw [List.filter_map]
    exact congrArg (List.map key) (List.filter_congr fun a ha => (hselected a ha).symm)
  have hnone : ∀ k ∈ distinct (l.map key), selected k = false →
      (l.filter p).filter (fun a => key a = k) = [] := by
    intro k _ hk
    rw [List.filter_eq_nil_iff]
    intro a ha hkey
    rw [List.mem_filter] at ha
    rw [decide_eq_true_eq] at hkey
    rw [← hkey, hselected a ha.1, ha.2] at hk
    cases hk
  rw [grouped, grouped, hkeys, ← filter_distinct, ← flatMap_filter_of_nil hnone, List.filter_flatMap]
  simp only [List.filter_filter, Bool.and_comm]

end KotlinPreferences
