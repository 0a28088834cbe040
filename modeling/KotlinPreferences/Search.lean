/-!
# Searching by steps

* `search`: all that is reached from some places by a step, each place visited once.

The search ends because each visit takes a place out of the unvisited ones
(`countP_unvisited_lt`).
-/

namespace KotlinPreferences

variable {α : Type} [DecidableEq α]

/-- A visit to one of the places leaves fewer of them unvisited. -/
theorem countP_unvisited_lt {places visited : List α} {a : α} (ha : a ∈ places)
    (hv : a ∉ visited) :
    places.countP (fun x => x ∉ a :: visited) < places.countP (fun x => x ∉ visited) := by
  induction places with
  | nil => cases ha
  | cons b rest ih =>
    have hle : rest.countP (fun x => x ∉ a :: visited) ≤ rest.countP (fun x => x ∉ visited) :=
      List.countP_mono_left fun x _ hx => by
        simp only [decide_eq_true_eq, List.mem_cons, not_or] at hx ⊢
        exact hx.2
    by_cases hb : b = a
    · subst hb
      rw [List.countP_cons_of_neg (by simp), List.countP_cons_of_pos (by simpa using hv)]
      omega
    · have hlt := ih ((List.mem_cons.mp ha).resolve_left (Ne.symm hb))
      by_cases hw : b ∈ visited
      · rw [List.countP_cons_of_neg (by simp [hw]), List.countP_cons_of_neg (by simpa using hw)]
        exact hlt
      · rw [List.countP_cons_of_pos (by simp [hb, hw]), List.countP_cons_of_pos (by simpa using hw)]
        omega

/-- All places reached from the pending ones, together with the visited ones. -/
def search (step : α → List α) (places : List α) (pending visited : List α) : List α :=
  match pending with
  | [] => visited
  | a :: rest =>
    if _h : a ∈ places ∧ a ∉ visited then search step places (step a ++ rest) (a :: visited)
    else search step places rest visited
  termination_by (places.countP fun x => x ∉ visited, pending.length)
  decreasing_by
    · exact Prod.Lex.left _ _ (countP_unvisited_lt _h.1 _h.2)
    · exact Prod.Lex.right _ (by simp)

end KotlinPreferences
