import KotlinPreferences.Search
import Mathlib.Logic.Relation
import Mathlib.Tactic.ByContra

/-!
# What a search finds

* `StepsTo`: one place is a step away from another;
* `Frontier`: every step from a visited place leads to a visited or a pending one;
* `search_invariant`: what passes over each step holds of all that is found;
* `search_closed`: no step leads out of what is found;
* `mem_search_iff`: a search from one place finds what can be reached from it, and nothing else.
-/

namespace KotlinPreferences

open Relation

variable {α : Type} {step : α → List α} {places pending visited : List α} {start a : α}

/-- One place is a step away from another. -/
def StepsTo (step : α → List α) (a b : α) : Prop := b ∈ step a

/-- Every step from a visited place leads to a visited or a pending one. -/
def Frontier (step : α → List α) (pending visited : List α) : Prop :=
  ∀ a ∈ visited, ∀ b ∈ step a, b ∈ visited ∨ b ∈ pending

/-- Visiting a pending place moves the frontier on. -/
theorem Frontier.visit {rest : List α} (h : Frontier step (a :: rest) visited) :
    Frontier step (step a ++ rest) (a :: visited) := by
  intro b hb c hc
  rcases List.mem_cons.1 hb with rfl | hb
  · exact .inr (List.mem_append_left rest hc)
  · rcases h b hb c hc with hvisited | hpending
    · exact .inl (List.mem_cons_of_mem a hvisited)
    · rcases List.mem_cons.1 hpending with rfl | hrest
      · exact .inl List.mem_cons_self
      · exact .inr (List.mem_append_right (step a) hrest)

/-- A place that was visited before need not stay pending. -/
theorem Frontier.skip {rest : List α} (h : Frontier step (a :: rest) visited) (ha : a ∈ visited) :
    Frontier step rest visited := by
  intro b hb c hc
  rcases h b hb c hc with hvisited | hpending
  · exact .inl hvisited
  · rcases List.mem_cons.1 hpending with rfl | hrest
    · exact .inl ha
    · exact .inr hrest

variable [DecidableEq α]

theorem mem_search_of_visited (h : a ∈ visited) : a ∈ search step places pending visited := by
  fun_induction search step places pending visited with
  | case1 visited => exact h
  | case2 visited b rest _ ih => exact ih (List.mem_cons_of_mem b h)
  | case3 visited b rest _ ih => exact ih h

/-- What holds at first and passes over each step holds of all that is found. -/
theorem search_invariant {inv : α → Prop} (hstep : ∀ a, inv a → ∀ b ∈ step a, inv b)
    (hpending : ∀ a ∈ pending, inv a) (hvisited : ∀ a ∈ visited, inv a) :
    ∀ a ∈ search step places pending visited, inv a := by
  fun_induction search step places pending visited with
  | case1 visited => exact hvisited
  | case2 visited b rest _ ih =>
    have hb : inv b := hpending b List.mem_cons_self
    refine ih (fun a ha => ?_) (List.forall_mem_cons.2 ⟨hb, hvisited⟩)
    rcases List.mem_append.1 ha with hnext | hrest
    · exact hstep b hb a hnext
    · exact hpending a (List.mem_cons_of_mem b hrest)
  | case3 visited b rest _ ih =>
    exact ih (fun a ha => hpending a (List.mem_cons_of_mem b ha)) hvisited

/-- The pending places are found, and no step leads out of what is found. -/
theorem search_closed (hplaces : ∀ a, ∀ b ∈ step a, b ∈ places) (hpending : ∀ a ∈ pending, a ∈ places)
    (hfrontier : Frontier step pending visited) :
    (∀ a ∈ pending, a ∈ search step places pending visited) ∧
      ∀ a ∈ search step places pending visited, ∀ b ∈ step a,
        b ∈ search step places pending visited := by
  fun_induction search step places pending visited with
  | case1 visited =>
    refine ⟨by simp, fun a ha b hb => ?_⟩
    rcases hfrontier a ha b hb with hvisited | hnone
    · exact hvisited
    · cases hnone
  | case2 visited b rest _ ih =>
    have hnext : ∀ a ∈ step b ++ rest, a ∈ places := fun a ha =>
      (List.mem_append.1 ha).elim (hplaces b a) fun hrest => hpending a (List.mem_cons_of_mem b hrest)
    obtain ⟨hfound, hclosed⟩ := ih hnext hfrontier.visit
    refine ⟨fun a ha => ?_, hclosed⟩
    rcases List.mem_cons.1 ha with rfl | hrest
    · exact mem_search_of_visited List.mem_cons_self
    · exact hfound a (List.mem_append_right (step b) hrest)
  | case3 visited b rest hskip ih =>
    have hb : b ∈ visited := by
      by_contra hnew
      exact hskip ⟨hpending b List.mem_cons_self, hnew⟩
    obtain ⟨hfound, hclosed⟩ :=
      ih (fun a ha => hpending a (List.mem_cons_of_mem b ha)) (hfrontier.skip hb)
    refine ⟨fun a ha => ?_, hclosed⟩
    rcases List.mem_cons.1 ha with rfl | hrest
    · exact mem_search_of_visited hb
    · exact hfound a hrest

/-- A search from one place finds what can be reached from it, and nothing else. -/
theorem mem_search_iff (hplaces : ∀ a, ∀ b ∈ step a, b ∈ places) :
    a ∈ search step places (step start) [start] ↔ ReflTransGen (StepsTo step) start a := by
  constructor
  · refine search_invariant (fun b hb c hc => hb.tail hc) (fun b hb => .single hb) ?_ a
    intro b hb
    rw [List.mem_singleton.1 hb]
  · have hfrontier : Frontier step (step start) [start] := by
      intro b hb c hc
      rw [List.mem_singleton.1 hb] at hc
      exact .inr hc
    obtain ⟨-, hclosed⟩ := search_closed hplaces (hplaces start) hfrontier
    intro hpath
    induction hpath with
    | refl => exact mem_search_of_visited List.mem_cons_self
    | tail _ hnext ih => exact hclosed _ ih _ hnext

end KotlinPreferences
