import KotlinPreferences.Document.Attributes
import Mathlib.Data.List.Perm.Basic

/-!
# Steps that may fail

How a sequence of steps that may fail is taken apart when it succeeds, and when it has to succeed.

* `bind_eq_ok_iff`, `orFail_eq_ok_iff`, `lift_eq_ok_iff`: a step that succeeds;
* `bind_eq_error_iff`, `orFail_eq_error_iff`, `lift_eq_error_iff`: a step that fails;
* `errorOf?`: the failure of a step;
* `exists_of_mapM_error`, `exists_of_forM_error`: steps over a list of which one fails;
* `mapM_eq_ok_iff`, `forM_eq_ok_iff`, `allM_eq_ok_true_iff`: steps over a list;
* `mapM_of_forall₂`: steps that take the elements of a list back to those of another;
* `mapM_of_perm`, `mapM_filter`, `mapM_mono`: steps over a list in another order, over some of its
  elements, or of another kind;
* `exists_results`, `mapM_eq_map`, `mapM_eq_filterMap`, `mapM_total`, `allM_total`, `anyM_eq_any`:
  steps over a list of which none fails;
* `foldlM_invariant`: what holds at first and passes over each step holds in the end, said of the
  part of the list that is done;
* `foldlM_eq_error_iff`: steps along a list fail at the first element where one fails.
-/

namespace KotlinPreferences

variable {ε α β : Type}

theorem bind_eq_ok_iff {x : Except ε α} {f : α → Except ε β} {b : β} :
    x >>= f = .ok b ↔ ∃ a, x = .ok a ∧ f a = .ok b := by
  cases x with
  | error e => simp [bind, Except.bind]
  | ok a => simp [bind, Except.bind]

@[simp] theorem ok_bind (a : α) (f : α → Except ε β) : (Except.ok a >>= f) = f a := rfl

@[simp] theorem pure_eq_ok (a : α) : (pure a : Except ε α) = .ok a := rfl

theorem map_eq_ok_iff {x : Except ε α} {f : α → β} {b : β} :
    f <$> x = .ok b ↔ ∃ a, x = .ok a ∧ f a = b := by
  cases x <;> simp [Functor.map, Except.map]

theorem orFail_eq_ok_iff {o : Option α} {failure : Failure} {a : α} :
    orFail o failure = .ok a ↔ o = some a := by
  cases o <;> simp

theorem lift_eq_ok_iff {x : Except Malformed α} {a : α} :
    Document.lift x = .ok a ↔ x = .ok a := by
  cases x <;> simp [Document.lift, Except.mapError]

theorem bind_eq_error_iff {x : Except ε α} {f : α → Except ε β} {e : ε} :
    x >>= f = .error e ↔ x = .error e ∨ ∃ a, x = .ok a ∧ f a = .error e := by
  cases x with
  | error e => simp [bind, Except.bind]
  | ok a => simp [bind, Except.bind]

@[simp] theorem error_bind (e : ε) (f : α → Except ε β) : (Except.error e >>= f) = .error e := rfl

theorem map_eq_error_iff {x : Except ε α} {f : α → β} {e : ε} :
    f <$> x = .error e ↔ x = .error e := by
  cases x <;> simp [Functor.map, Except.map]

theorem orFail_eq_error_iff {o : Option α} {failure failure' : Failure} :
    orFail o failure = .error failure' ↔ o = none ∧ failure = failure' := by
  cases o <;> simp

theorem lift_eq_error_iff {x : Except Malformed α} {failure : Failure} :
    Document.lift x = .error failure ↔ ∃ what, x = .error what ∧ failure = .malformed what := by
  cases x <;> simp [Document.lift, Except.mapError, eq_comm]

theorem eq_ok_of_toOption {x : Except ε α} {a : α} (h : x.toOption = some a) : x = .ok a := by
  cases x with
  | error e => cases h
  | ok b =>
    cases h
    rfl

/-- The failure of a step, if it fails. -/
def errorOf? : Except ε α → Option ε
  | .error e => some e
  | .ok _ => none

theorem eq_error_of_errorOf? {x : Except ε α} {e : ε} (h : errorOf? x = some e) : x = .error e := by
  cases x with
  | error e' =>
    cases h
    rfl
  | ok a => cases h

/-! ### Lists -/

theorem mapM_eq_ok_iff {f : α → Except ε β} {l : List α} {bs : List β} :
    l.mapM f = .ok bs ↔ List.Forall₂ (fun a b => f a = .ok b) l bs := by
  induction l generalizing bs with
  | nil => simp [eq_comm]
  | cons a rest ih =>
    simp only [List.mapM_cons, bind_eq_ok_iff, pure_eq_ok, Except.ok.injEq, ih]
    constructor
    · rintro ⟨b, hb, cs, hcs, rfl⟩
      exact .cons hb hcs
    · rintro (_ | ⟨hb, hcs⟩)
      exact ⟨_, hb, _, hcs, rfl⟩

theorem exists_of_mem_forall₂ {R : α → β → Prop} {l : List α} {bs : List β}
    (h : List.Forall₂ R l bs) {b : β} (hb : b ∈ bs) : ∃ a ∈ l, R a b := by
  induction h with
  | nil => cases hb
  | cons hab _ ih =>
    rcases List.mem_cons.1 hb with rfl | hrest
    · exact ⟨_, List.mem_cons_self, hab⟩
    · obtain ⟨a, ha, hab⟩ := ih hrest
      exact ⟨a, List.mem_cons_of_mem _ ha, hab⟩

/-- Where each step takes an element back to what it was related to, so do the steps over a list. -/
theorem mapM_of_forall₂ {R : β → α → Prop} {f : α → Except ε β} {bs : List β} {l : List α}
    (h : List.Forall₂ R bs l) (hf : ∀ b ∈ bs, ∀ a, R b a → f a = .ok b) : l.mapM f = .ok bs := by
  induction h with
  | nil => rfl
  | cons hba _ ih =>
    rw [List.mapM_cons, hf _ List.mem_cons_self _ hba, ok_bind,
      ih fun b hb => hf b (List.mem_cons_of_mem _ hb), ok_bind, pure_eq_ok]

/-- The steps over a list in another order have the same results, in another order. -/
theorem mapM_of_perm {f : α → Except ε β} {l l' : List α} {bs : List β} (h : l.mapM f = .ok bs)
    (hperm : l.Perm l') : ∃ bs', l'.mapM f = .ok bs' ∧ bs.Perm bs' := by
  obtain ⟨bs', hbs', hbs⟩ := List.perm_comp_forall₂ hperm.symm (mapM_eq_ok_iff.1 h)
  exact ⟨bs', mapM_eq_ok_iff.2 hbs', hbs.symm⟩

/-- The steps over some elements of a list, where their results tell which ones they are. -/
theorem mapM_filter {f : α → Except ε β} {p : α → Bool} {q : β → Bool} {l : List α} {bs : List β}
    (h : l.mapM f = .ok bs) (hpq : ∀ a ∈ l, ∀ b, f a = .ok b → p a = q b) :
    (l.filter p).mapM f = .ok (bs.filter q) := by
  have hsteps := mapM_eq_ok_iff.1 h
  clear h
  induction hsteps with
  | nil => rfl
  | @cons a b rest bs hab _ ih =>
    obtain ⟨ha, hrest⟩ := List.forall_mem_cons.1 hpq
    have hq := ha b hab
    rw [List.filter_cons, List.filter_cons, hq]
    cases q b with
    | true =>
      simp only [if_true, List.mapM_cons, hab, ok_bind, ih hrest]
      rfl
    | false => simpa using ih hrest

/-- Each result comes from an element of the list. -/
theorem exists_of_mem_mapM {f : α → Except ε β} {l : List α} {bs : List β}
    (h : l.mapM f = .ok bs) {b : β} (hb : b ∈ bs) : ∃ a ∈ l, f a = .ok b :=
  exists_of_mem_forall₂ (mapM_eq_ok_iff.1 h) hb

/-- Where the steps over a list succeed, each of them does. -/
theorem exists_of_mapM {f : α → Except ε β} {l : List α} {bs : List β}
    (h : l.mapM f = .ok bs) {a : α} (ha : a ∈ l) : ∃ b, f a = .ok b := by
  have hflip : List.Forall₂ (fun b a => f a = .ok b) bs l := (mapM_eq_ok_iff.1 h).flip
  obtain ⟨b, -, hb⟩ := exists_of_mem_forall₂ hflip ha
  exact ⟨b, hb⟩

/-- What comes from an element of the list is among the results. -/
theorem mem_of_mapM {f : α → Except ε β} {l : List α} {bs : List β} (h : l.mapM f = .ok bs) {a : α}
    (ha : a ∈ l) {b : β} (hb : f a = .ok b) : b ∈ bs := by
  have hflip : List.Forall₂ (fun b a => f a = .ok b) bs l := (mapM_eq_ok_iff.1 h).flip
  obtain ⟨c, hc, hac⟩ := exists_of_mem_forall₂ hflip ha
  rw [hb, Except.ok.injEq] at hac
  exact hac ▸ hc

/-- Steps that succeed wherever others do, with the same results, succeed over the same lists. -/
theorem mapM_mono {f f' : α → Except ε β} (hf : ∀ a b, f a = .ok b → f' a = .ok b) {l : List α}
    {bs : List β} (h : l.mapM f = .ok bs) : l.mapM f' = .ok bs :=
  mapM_eq_ok_iff.2 ((mapM_eq_ok_iff.1 h).imp hf)

/-- Where the steps over a list fail, one of them does. -/
theorem exists_of_mapM_error {f : α → Except ε β} {l : List α} {e : ε}
    (h : l.mapM f = .error e) : ∃ a ∈ l, f a = .error e := by
  induction l with
  | nil => cases h
  | cons a rest ih =>
    rw [List.mapM_cons, bind_eq_error_iff] at h
    rcases h with ha | ⟨b, -, h⟩
    · exact ⟨a, List.mem_cons_self, ha⟩
    · rcases bind_eq_error_iff.1 h with hrest | ⟨bs, -, hpure⟩
      · obtain ⟨c, hc, hfails⟩ := ih hrest
        exact ⟨c, List.mem_cons_of_mem _ hc, hfails⟩
      · cases hpure

theorem exists_of_forM_error {f : α → Except ε Unit} {l : List α} {e : ε}
    (h : l.forM f = .error e) : ∃ a ∈ l, f a = .error e := by
  induction l with
  | nil => cases h
  | cons a rest ih =>
    rw [List.forM, bind_eq_error_iff] at h
    rcases h with ha | ⟨u, -, hrest⟩
    · exact ⟨a, List.mem_cons_self, ha⟩
    · obtain ⟨c, hc, hfails⟩ := ih hrest
      exact ⟨c, List.mem_cons_of_mem _ hc, hfails⟩

/-- Where none of the steps over a list fails, a function gives their results. -/
theorem exists_results [Nonempty β] {f : α → Except ε β} {l : List α}
    (h : ∀ a ∈ l, ∃ b, f a = .ok b) : ∃ k : α → β, ∀ a ∈ l, f a = .ok (k a) := by
  refine ⟨fun a => (f a).toOption.getD (Classical.arbitrary β), fun a ha => ?_⟩
  obtain ⟨b, hb⟩ := h a ha
  simp only [hb, Except.toOption, Option.getD_some]

theorem mapM_eq_map {f : α → Except ε β} {k : α → β} {l : List α}
    (h : ∀ a ∈ l, f a = .ok (k a)) : l.mapM f = .ok (l.map k) := by
  induction l with
  | nil => rfl
  | cons a rest ih =>
    rw [List.mapM_cons, h a (by simp), ok_bind, ih fun b hb => h b (by simp [hb]), ok_bind,
      pure_eq_ok, List.map_cons]

/-- Steps that agree with a partial function, where it is defined on the whole list. -/
theorem mapM_eq_filterMap {f : α → Except ε β} {k : α → Option β} {l : List α}
    (h : ∀ a ∈ l, ∃ b, f a = .ok b ∧ k a = some b) : l.mapM f = .ok (l.filterMap k) := by
  induction l with
  | nil => rfl
  | cons a rest ih =>
    obtain ⟨⟨b, hb, hk⟩, hrest⟩ := List.forall_mem_cons.1 h
    rw [List.mapM_cons, hb, ok_bind, ih hrest, ok_bind, pure_eq_ok, List.filterMap_cons, hk]

theorem forM_eq_ok_iff {f : α → Except ε Unit} {l : List α} :
    l.forM f = .ok () ↔ ∀ a ∈ l, f a = .ok () := by
  induction l with
  | nil => simp
  | cons a rest ih =>
    rw [List.forM, bind_eq_ok_iff, List.forall_mem_cons, ← ih]
    constructor
    · rintro ⟨_, ha, hrest⟩
      exact ⟨ha, hrest⟩
    · rintro ⟨ha, hrest⟩
      exact ⟨(), ha, hrest⟩

theorem allM_cons {p : α → Except ε Bool} {a : α} {rest : List α} :
    (a :: rest).allM p = p a >>= fun b => if b then rest.allM p else pure false := by
  rw [List.allM]
  congr 1
  funext b
  cases b <;> rfl

theorem allM_eq_ok_true_iff {p : α → Except ε Bool} {l : List α} :
    l.allM p = .ok true ↔ ∀ a ∈ l, p a = .ok true := by
  induction l with
  | nil => simp [List.allM]
  | cons a rest ih =>
    rw [allM_cons, bind_eq_ok_iff, List.forall_mem_cons, ← ih]
    constructor
    · rintro ⟨b, hb, hrest⟩
      cases b with
      | false => cases hrest
      | true => exact ⟨hb, hrest⟩
    · rintro ⟨ha, hrest⟩
      exact ⟨true, ha, hrest⟩

theorem allM_total {p : α → Except ε Bool} {l : List α} (h : ∀ a ∈ l, ∃ b, p a = .ok b) :
    ∃ b, l.allM p = .ok b := by
  induction l with
  | nil => exact ⟨true, rfl⟩
  | cons a rest ih =>
    obtain ⟨⟨b, hb⟩, hrest⟩ := List.forall_mem_cons.1 h
    rw [allM_cons, hb, ok_bind]
    cases b with
    | false => exact ⟨false, rfl⟩
    | true => exact ih hrest

theorem anyM_eq_any {p : α → Except ε Bool} {q : α → Bool} {l : List α}
    (h : ∀ a ∈ l, p a = .ok (q a)) : l.anyM p = .ok (l.any q) := by
  induction l with
  | nil => rfl
  | cons a rest ih =>
    obtain ⟨ha, hrest⟩ := List.forall_mem_cons.1 h
    rw [List.anyM, ha, ok_bind, List.any_cons]
    cases q a with
    | false => simpa using ih hrest
    | true => rfl

/-- What holds at first and passes over each step holds in the end. The invariant may speak of the
part of the list that is done. -/
theorem foldlM_invariant {step : β → α → Except ε β} {l : List α} {s t : β}
    (inv : List α → β → Prop) (start : inv [] s)
    (next : ∀ done a s s', a ∈ l → inv done s → step s a = .ok s' → inv (done ++ [a]) s')
    (h : l.foldlM step s = .ok t) : inv l t := by
  -- the list is split into what is done and what is left, and the induction is on what is left
  suffices hsplit : ∀ left done s, (∀ a ∈ left, a ∈ l) → inv done s → left.foldlM step s = .ok t →
      inv (done ++ left) t by
    simpa using hsplit l [] s (fun _ ha => ha) start h
  intro left
  induction left with
  | nil =>
    intro done s _ hinv h
    cases h
    simpa using hinv
  | cons a rest ih =>
    intro done s hmem hinv h
    rw [List.foldlM_cons, bind_eq_ok_iff] at h
    obtain ⟨s', hs', hrest⟩ := h
    have hinv' := next done a s s' (hmem a (by simp)) hinv hs'
    simpa using ih (done ++ [a]) s' (fun b hb => hmem b (by simp [hb])) hinv' hrest

/-- Steps along a list fail exactly where all steps up to some element succeed and the step at that
element fails. -/
theorem foldlM_eq_error_iff {step : β → α → Except ε β} {l : List α} {s : β} {e : ε} :
    l.foldlM step s = .error e ↔ ∃ done a left t, l = done ++ a :: left ∧
      done.foldlM step s = .ok t ∧ step t a = .error e := by
  induction l generalizing s with
  | nil => simp
  | cons b rest ih =>
    rw [List.foldlM_cons, bind_eq_error_iff]
    constructor
    · rintro (hb | ⟨s', hs', hrest⟩)
      · exact ⟨[], b, rest, s, rfl, rfl, hb⟩
      · obtain ⟨done, a, left, t, rfl, hdone, ha⟩ := ih.1 hrest
        exact ⟨b :: done, a, left, t, rfl, by rw [List.foldlM_cons, hs', ok_bind, hdone], ha⟩
    · rintro ⟨_ | ⟨c, done⟩, a, left, t, hsplit, hdone, ha⟩
      · cases hsplit
        cases hdone
        exact .inl ha
      · cases hsplit
        rw [List.foldlM_cons, bind_eq_ok_iff] at hdone
        obtain ⟨s', hs', hdone⟩ := hdone
        exact .inr ⟨s', hs', ih.2 ⟨done, a, left, t, rfl, hdone, ha⟩⟩

end KotlinPreferences
