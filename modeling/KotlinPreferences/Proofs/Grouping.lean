import KotlinPreferences.Grouping
import Mathlib.Data.List.Basic

/-!
# Lists in parts

A list may be put together from parts, each of which has a key of its own. Grouping is one way to do
so.

* `filter_flatMap_of_keys`: the entries of a key are those of its part;
* `flatMap_filter_perm`, `grouped_perm`: no entry is lost, added or repeated;
* `distinct_map_flatMap`, `grouped_grouped`: what is grouped stays as it is when it is grouped again;
* `pairwise_idxOf_distinct`: the groups come in the order of their first entries;
* `find?_grouped`: what is looked for by its key is found where it comes up first;
* `runs`, `map_grouped`, `runs_of_nodup`: the keys of a grouped list.
-/

namespace KotlinPreferences

variable {α κ : Type} [DecidableEq κ] {key : α → κ} {ks : List κ} {l : List α}

/-- Where each part has a key of its own, the entries of a key are those of its part. -/
theorem filter_flatMap_of_keys {part : κ → List α} (hpart : ∀ k, ∀ a ∈ part k, key a = k)
    (hks : ks.Nodup) (k : κ) :
    (ks.flatMap part).filter (fun a => key a = k) = if k ∈ ks then part k else [] := by
  induction ks with
  | nil => rfl
  | cons k' rest ih =>
    obtain ⟨hnot, hrest⟩ := List.nodup_cons.1 hks
    rw [List.flatMap_cons, List.filter_append, ih hrest]
    by_cases hk : k = k'
    · subst hk
      have hall : (part k).filter (fun a => key a = k) = part k :=
        List.filter_eq_self.2 fun a ha => decide_eq_true (hpart k a ha)
      rw [hall, if_neg hnot, if_pos List.mem_cons_self, List.append_nil]
    · have hnone : (part k').filter (fun a => key a = k) = [] :=
        List.filter_eq_nil_iff.2 fun a ha hkey =>
          hk ((of_decide_eq_true hkey).symm.trans (hpart k' a ha))
      rw [hnone, List.nil_append]
      simp [hk]

/-- A list put together again from its entries of each key has the same entries. -/
theorem flatMap_filter_perm (hks : ks.Nodup) (hall : ∀ a ∈ l, key a ∈ ks) :
    (ks.flatMap fun k => l.filter fun a => key a = k).Perm l := by
  induction ks generalizing l with
  | nil =>
    cases l with
    | nil => exact .refl _
    | cons a rest => exact absurd (hall a List.mem_cons_self) List.not_mem_nil
  | cons k rest ih =>
    obtain ⟨hnot, hrest⟩ := List.nodup_cons.1 hks
    -- the entries of the other keys are those of what is left
    have hleft : ∀ a ∈ l.filter (fun a => !decide (key a = k)), key a ∈ rest := by
      intro a ha
      rw [List.mem_filter] at ha
      have hne : key a ≠ k := by simpa using ha.2
      exact (List.mem_cons.1 (hall a ha.1)).resolve_left hne
    have hparts : (rest.flatMap fun k' => l.filter fun a => key a = k') =
        rest.flatMap fun k' => (l.filter fun a => !decide (key a = k)).filter fun a => key a = k' := by
      refine List.flatMap_congr fun k' hk' => ?_
      rw [List.filter_filter]
      refine List.filter_congr fun a _ => ?_
      by_cases ha : key a = k'
      · have hne : k' ≠ k := fun h => hnot (h ▸ hk')
        simp [ha, hne]
      · simp [ha]
    rw [List.flatMap_cons, hparts]
    exact ((ih hrest hleft).append_left _).trans (List.filter_append_perm _ l)

theorem grouped_perm (key : α → κ) (l : List α) : (grouped key l).Perm l :=
  flatMap_filter_perm (nodup_distinct _) fun _ ha => mem_distinct.2 (List.mem_map_of_mem ha)

theorem filter_grouped_of_key (key : α → κ) (l : List α) (k : κ) :
    (grouped key l).filter (fun a => key a = k) = l.filter fun a => key a = k := by
  rw [grouped, filter_flatMap_of_keys (fun k a ha => of_decide_eq_true (List.mem_filter.1 ha).2)
    (nodup_distinct _)]
  split
  · rfl
  · rename_i hk
    rw [mem_distinct, List.mem_map] at hk
    exact (List.filter_eq_nil_iff.2 fun a ha hkey => hk ⟨a, ha, of_decide_eq_true hkey⟩).symm

theorem distinct_append (l m : List κ) :
    distinct (l ++ m) = distinct l ++ (distinct m).filter (· ∉ l) := by
  induction l with
  | nil => exact (List.filter_eq_self.2 fun _ _ => by simp).symm
  | cons a rest ih =>
    rw [List.cons_append, distinct, ih, distinct, List.filter_append, List.filter_filter]
    simp

/-- A part that is not empty and has one key comes down to the key. -/
theorem distinct_map_of_key {part : List α} {k : κ} (hpart : ∀ a ∈ part, key a = k) (hne : part ≠ []) :
    distinct (part.map key) = [k] := by
  induction part with
  | nil => exact absurd rfl hne
  | cons a rest ih =>
    obtain ⟨ha, hrest⟩ := List.forall_mem_cons.1 hpart
    rw [List.map_cons, distinct, ha]
    have hnone : (distinct (rest.map key)).filter (· ≠ k) = [] := by
      rw [List.filter_eq_nil_iff]
      intro k' hk'
      rw [mem_distinct, List.mem_map] at hk'
      obtain ⟨b, hb, rfl⟩ := hk'
      simp [hrest b hb]
    rw [hnone]

/-- The keys of parts that are not empty come up in the order of the parts. -/
theorem distinct_map_flatMap {part : κ → List α} (hpart : ∀ k, ∀ a ∈ part k, key a = k)
    (hne : ∀ k ∈ ks, part k ≠ []) (hks : ks.Nodup) :
    distinct ((ks.flatMap part).map key) = ks := by
  induction ks with
  | nil => rfl
  | cons k rest ih =>
    obtain ⟨hnot, hrest⟩ := List.nodup_cons.1 hks
    obtain ⟨hk, hmore⟩ := List.forall_mem_cons.1 hne
    rw [List.flatMap_cons, List.map_append, distinct_append, distinct_map_of_key (hpart k) hk,
      ih hmore hrest, List.singleton_append, List.filter_eq_self.2]
    intro k' hk'
    rw [decide_eq_true_eq, List.mem_map]
    rintro ⟨a, ha, rfl⟩
    exact hnot (hpart k a ha ▸ hk')

/-- What is grouped stays as it is when it is grouped again. -/
theorem grouped_grouped (key : α → κ) (l : List α) : grouped key (grouped key l) = grouped key l := by
  have hkeys : distinct ((grouped key l).map key) = distinct (l.map key) := by
    refine distinct_map_flatMap (fun k a ha => of_decide_eq_true (List.mem_filter.1 ha).2) ?_
      (nodup_distinct _)
    intro k hk hnil
    rw [mem_distinct, List.mem_map] at hk
    obtain ⟨a, ha, rfl⟩ := hk
    exact List.filter_eq_nil_iff.1 hnil a ha (decide_eq_true rfl)
  rw [grouped, hkeys]
  simp only [filter_grouped_of_key]
  rfl

/-- The distinct elements of a list stand in the order of their first places. -/
theorem pairwise_idxOf_distinct (l : List κ) :
    (distinct l).Pairwise fun a b => l.idxOf a ≤ l.idxOf b := by
  induction l with
  | nil => exact .nil
  | cons a rest ih =>
    rw [distinct, List.pairwise_cons]
    refine ⟨fun b _ => by simp, (ih.filter _).imp_of_mem fun {b c} hb hc hle => ?_⟩
    have hb : b ≠ a := of_decide_eq_true (List.mem_filter.1 hb).2
    have hc : c ≠ a := of_decide_eq_true (List.mem_filter.1 hc).2
    rw [List.idxOf_cons_ne _ hb.symm, List.idxOf_cons_ne _ hc.symm]
    exact Nat.succ_le_succ hle

/-! ### Searches and keys -/

theorem head?_grouped (key : α → κ) (l : List α) : (grouped key l).head? = l.head? := by
  cases l with
  | nil => rfl
  | cons a rest => simp [grouped, distinct]

/-- What is looked for by its key is found in a grouped list where it comes up first. -/
theorem find?_grouped {p : α → Bool} (h : ∀ a ∈ l, ∀ b ∈ l, key a = key b → p a = p b) :
    (grouped key l).find? p = l.find? p := by
  rw [← List.head?_filter, filter_grouped h, head?_grouped, List.head?_filter]

/-- The elements of a list in the order in which they come up first, each in a row as often as it is
there. -/
def runs (l : List κ) : List κ := (distinct l).flatMap fun k => List.replicate (l.count k) k

theorem map_filter_key (key : α → κ) (l : List α) (k : κ) :
    (l.filter fun a => key a = k).map key = List.replicate ((l.map key).count k) k := by
  rw [List.eq_replicate_iff, List.length_map, List.count_eq_countP, List.countP_map,
    List.countP_eq_length_filter]
  constructor
  · simp only [Function.comp_def, beq_eq_decide]
  · intro k' hk'
    obtain ⟨a, ha, rfl⟩ := List.mem_map.1 hk'
    exact of_decide_eq_true (List.mem_filter.1 ha).2

/-- The keys of a grouped list come in runs. -/
theorem map_grouped (key : α → κ) (l : List α) : (grouped key l).map key = runs (l.map key) := by
  rw [grouped, List.map_flatMap]
  simp only [map_filter_key]
  rfl

theorem distinct_of_nodup {l : List κ} (h : l.Nodup) : distinct l = l := by
  induction l with
  | nil => rfl
  | cons a rest ih =>
    obtain ⟨hnot, hrest⟩ := List.nodup_cons.1 h
    rw [distinct, ih hrest, List.filter_eq_self.2]
    intro b hb
    exact decide_eq_true fun hab => hnot (hab ▸ hb)

/-- Where nothing is repeated, every run is a single element. -/
theorem runs_of_nodup {l : List κ} (h : l.Nodup) : runs l = l := by
  have hsingle : ∀ k ∈ l, List.replicate (l.count k) k = [k] := fun k hk => by
    rw [h.count, if_pos hk, List.replicate_one]
  rw [runs, distinct_of_nodup h, List.flatMap_congr hsingle, List.flatMap_singleton']

end KotlinPreferences
