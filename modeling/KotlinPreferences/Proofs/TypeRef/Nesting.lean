import KotlinPreferences.Proofs.TypeRef.Pieces
import Mathlib.Tactic.SplitIfs

/-!
# Marks inside of brackets

How deep a character of a text stands is told by the brackets in front of it: those that were opened,
less those that were closed. Here that is said by counting, without the cut of a text into pieces.

* `Nested`: some marks stand in a text nowhere but inside of open brackets, and all brackets are closed
  in the end;
* `nested_nil_iff`, `nested_open_iff`, `nested_close_iff`, `nested_cons_iff`: the same, one character
  after another;
* `nested_of_pieces`: a text is cut only if its brackets match, and no piece has a comma outside of
  brackets;
* `nested_prepend_iff`, `nested_append_iff`, `enclosed_margins_iff`: other characters around a text;
* `Balanced.enclosed`: brackets around a text.
-/

namespace KotlinPreferences.TypeRef

variable {marks before after s : List CodePoint} {c d : CodePoint} {depth : Nat} {ps : List (List CodePoint)}

/-- In a text behind `depth` open brackets, the given marks stand nowhere but inside of brackets that
are open there, and in the end all brackets are closed. Where a closing bracket is among the marks, no
bracket is closed that is not open. -/
structure Nested (marks : List CodePoint) (depth : Nat) (s : List CodePoint) : Prop where
  inside : ∀ c ∈ marks, ∀ p, p ++ [c] <+: s → p.count (.scalar '>') < depth + p.count (.scalar '<')
  closed : s.count (.scalar '>') = depth + s.count (.scalar '<')

/-- The brackets of a text match. -/
abbrev Balanced : Nat → List CodePoint → Prop := Nested [CodePoint.scalar '>']

/-- The brackets of a text match, and every comma stands between two of them. -/
abbrev Enclosed : Nat → List CodePoint → Prop := Nested ['>', ',']

/-! ### One character after another -/

theorem nested_nil_iff : Nested marks depth [] ↔ depth = 0 := by
  constructor
  · intro h
    have := h.closed
    simp only [List.count_nil] at this
    omega
  · rintro rfl
    exact ⟨fun c _ p hp => absurd (List.prefix_nil.1 hp) (by simp), rfl⟩

/-- A mark is the first character of a text, or it stands in the rest. -/
theorem nested_iff_of_cons : Nested marks depth (d :: s) ↔
    (d ∈ marks → 0 < depth) ∧
      (∀ c ∈ marks, ∀ p, p ++ [c] <+: s → (d :: p).count (.scalar '>') < depth + (d :: p).count (.scalar '<')) ∧
      (d :: s).count (.scalar '>') = depth + (d :: s).count (.scalar '<') := by
  constructor
  · intro h
    refine ⟨fun hd => ?_, fun c hc p hp => h.inside c hc (d :: p) ?_, h.closed⟩
    · simpa using h.inside d hd [] (by simp)
    · exact List.cons_prefix_cons.2 ⟨rfl, hp⟩
  · rintro ⟨hfirst, hrest, hclosed⟩
    refine ⟨fun c hc p hp => ?_, hclosed⟩
    cases p with
    | nil =>
      obtain ⟨rfl, -⟩ := List.cons_prefix_cons.1 hp
      simpa using hfirst hc
    | cons e q =>
      obtain ⟨rfl, hq⟩ := List.cons_prefix_cons.1 hp
      exact hrest c hc q hq

theorem nested_open_iff (hopen : .scalar '<' ∉ marks) :
    Nested marks depth (.scalar '<' :: s) ↔ Nested marks (depth + 1) s := by
  simp only [nested_iff_of_cons, List.count_cons_self,
    List.count_cons_of_ne (show CodePoint.scalar '<' ≠ .scalar '>' by decide)]
  constructor
  · rintro ⟨-, hrest, hclosed⟩
    exact ⟨fun c hc p hp => by have := hrest c hc p hp; omega, by omega⟩
  · intro h
    refine ⟨fun hd => absurd hd hopen, fun c hc p hp => ?_, ?_⟩
    · have := h.inside c hc p hp
      omega
    · have := h.closed
      omega

theorem nested_close_iff (hclose : .scalar '>' ∈ marks) :
    Nested marks depth (.scalar '>' :: s) ↔ 0 < depth ∧ Nested marks (depth - 1) s := by
  simp only [nested_iff_of_cons, List.count_cons_self,
    List.count_cons_of_ne (show CodePoint.scalar '>' ≠ .scalar '<' by decide)]
  constructor
  · rintro ⟨hpos, hrest, hclosed⟩
    have hpos := hpos hclose
    exact ⟨hpos, fun c hc p hp => by have := hrest c hc p hp; omega, by omega⟩
  · rintro ⟨hpos, h⟩
    refine ⟨fun _ => hpos, fun c hc p hp => ?_, ?_⟩
    · have := h.inside c hc p hp
      omega
    · have := h.closed
      omega

/-- A character that is no bracket leaves the depth as it is; if it is a mark, it needs some. -/
theorem nested_cons_iff (hopen : d ≠ '<') (hclose : d ≠ '>') :
    Nested marks depth (d :: s) ↔ (d ∈ marks → 0 < depth) ∧ Nested marks depth s := by
  simp only [nested_iff_of_cons, List.count_cons_of_ne hopen, List.count_cons_of_ne hclose]
  exact and_congr_right fun _ => ⟨fun h => ⟨h.1, h.2⟩, fun h => ⟨h.inside, h.closed⟩⟩

/-! ### Pieces -/

/-- **A text is cut only if its brackets match.** The first piece closes what is open in front of it,
and in no piece stands a comma outside of brackets. -/
theorem nested_of_pieces (h : pieces depth s = some ps) : Balanced depth s ∧
    ∃ first rest, ps = first :: rest ∧ Enclosed depth first ∧ ∀ p ∈ rest, Enclosed 0 p := by
  induction s generalizing depth ps with
  | nil =>
    rw [pieces] at h
    split at h
    · rename_i hdepth
      cases h
      exact ⟨nested_nil_iff.2 hdepth, [], [], rfl, nested_nil_iff.2 hdepth, by simp⟩
    · cases h
  | cons c s ih =>
    rw [pieces] at h
    split_ifs at h with hopen hclose hdepth hcomma
    · subst hopen
      obtain ⟨qs, hqs, rfl⟩ := Option.map_eq_some_iff.1 h
      obtain ⟨hbalanced, first, rest, rfl, hfirst, hrest⟩ := ih hqs
      exact ⟨(nested_open_iff (by decide)).2 hbalanced, _, rest, rfl,
        (nested_open_iff (by decide)).2 hfirst, hrest⟩
    · subst hclose
      have hpos : 0 < depth := Nat.pos_of_ne_zero hdepth
      obtain ⟨qs, hqs, rfl⟩ := Option.map_eq_some_iff.1 h
      obtain ⟨hbalanced, first, rest, rfl, hfirst, hrest⟩ := ih hqs
      exact ⟨(nested_close_iff (by decide)).2 ⟨hpos, hbalanced⟩, _, rest, rfl,
        (nested_close_iff (by decide)).2 ⟨hpos, hfirst⟩, hrest⟩
    · -- a comma outside of brackets ends a piece, which is empty so far
      obtain ⟨rfl, rfl⟩ := hcomma
      obtain ⟨qs, hqs, rfl⟩ := Option.map_eq_some_iff.1 h
      obtain ⟨hbalanced, first, rest, rfl, hfirst, hrest⟩ := ih hqs
      exact ⟨(nested_cons_iff hopen hclose).2 ⟨by simp, hbalanced⟩, [], _, rfl,
        nested_nil_iff.2 rfl, List.forall_mem_cons.2 ⟨hfirst, hrest⟩⟩
    · obtain ⟨qs, hqs, rfl⟩ := Option.map_eq_some_iff.1 h
      obtain ⟨hbalanced, first, rest, rfl, hfirst, hrest⟩ := ih hqs
      have hinside : c ∈ [CodePoint.scalar '>', .scalar ','] → 0 < depth := by
        intro hc
        have hc : c = ',' := by simpa [hclose] using hc
        exact Nat.pos_of_ne_zero fun hzero => hcomma ⟨hc, hzero⟩
      exact ⟨(nested_cons_iff hopen hclose).2 ⟨by simp [hclose], hbalanced⟩, _, rest, rfl,
        (nested_cons_iff hopen hclose).2 ⟨hinside, hfirst⟩, hrest⟩

/-- In no type argument a comma or a closing bracket stands outside of brackets. -/
theorem enclosed_of_splitArguments (h : splitArguments s = .ok ps) :
    Balanced 0 s ∧ ∀ p ∈ ps, Enclosed 0 p := by
  unfold splitArguments at h
  split at h
  · cases h
  · rename_i qs hqs
    split at h
    · cases h
    · cases h
      obtain ⟨hbalanced, first, rest, rfl, hfirst, hrest⟩ := nested_of_pieces hqs
      exact ⟨hbalanced, List.forall_mem_cons.2 ⟨hfirst, hrest⟩⟩

/-! ### What stands around a text -/

/-- Characters in front of a text that are no brackets and no marks do not matter. -/
theorem nested_prepend_iff (h : ∀ c ∈ before, c ≠ '<' ∧ c ≠ '>' ∧ c ∉ marks) :
    Nested marks depth (before ++ s) ↔ Nested marks depth s := by
  induction before with
  | nil => rfl
  | cons c rest ih =>
    obtain ⟨⟨hopen, hclose, hmark⟩, hrest⟩ := List.forall_mem_cons.1 h
    rw [List.cons_append, nested_cons_iff hopen hclose, ih hrest]
    exact and_iff_right fun hc => absurd hc hmark

/-- Nor do they behind it. -/
theorem nested_append_iff (hopen : .scalar '<' ∉ marks) (hclose : .scalar '>' ∈ marks)
    (h : ∀ c ∈ after, c ≠ '<' ∧ c ≠ '>' ∧ c ∉ marks) :
    Nested marks depth (s ++ after) ↔ Nested marks depth s := by
  induction s generalizing depth with
  | nil =>
    have hnil : Nested marks depth (after ++ []) ↔ Nested marks depth [] := nested_prepend_iff h
    rwa [List.append_nil] at hnil
  | cons c rest ih =>
    rw [List.cons_append]
    by_cases hc : c = '<'
    · subst hc
      rw [nested_open_iff hopen, nested_open_iff hopen, ih]
    · by_cases hc' : c = '>'
      · subst hc'
        rw [nested_close_iff hclose, nested_close_iff hclose, ih]
      · rw [nested_cons_iff hc hc', nested_cons_iff hc hc', ih]

/-- Characters around a text that are no brackets and no commas leave what is enclosed as it is. -/
theorem enclosed_margins_iff (hbefore : ∀ c ∈ before, c ≠ '<' ∧ c ≠ '>' ∧ c ≠ ',')
    (hafter : ∀ c ∈ after, c ≠ '<' ∧ c ≠ '>' ∧ c ≠ ',') :
    Enclosed depth (before ++ s ++ after) ↔ Enclosed depth s := by
  unfold Enclosed
  rw [List.append_assoc, nested_prepend_iff (by simpa using hbefore),
    nested_append_iff (by decide) (by decide) (by simpa using hafter)]

/-- Up to a last bracket that is closed behind a text, everything in it stands inside of brackets. -/
theorem Balanced.concat_close (h : Balanced depth s) : Enclosed (depth + 1) (s ++ [CodePoint.scalar '>']) := by
  induction s generalizing depth with
  | nil =>
    obtain rfl := nested_nil_iff.1 h
    exact (nested_close_iff (by decide)).2 ⟨Nat.one_pos, nested_nil_iff.2 rfl⟩
  | cons c rest ih =>
    rw [List.cons_append]
    by_cases hc : c = '<'
    · subst hc
      exact (nested_open_iff (by decide)).2 (ih ((nested_open_iff (by decide)).1 h))
    · by_cases hc' : c = '>'
      · subst hc'
        obtain ⟨hpos, hrest⟩ := (nested_close_iff (by decide)).1 h
        have hdepth : depth + 1 - 1 = depth - 1 + 1 := by omega
        exact (nested_close_iff (by decide)).2 ⟨Nat.succ_pos depth, hdepth ▸ ih hrest⟩
      · obtain ⟨-, hrest⟩ := (nested_cons_iff hc hc').1 h
        exact (nested_cons_iff hc hc').2 ⟨fun _ => Nat.succ_pos depth, ih hrest⟩

/-- Brackets around a text whose own brackets match enclose everything in it. -/
theorem Balanced.enclosed (h : Balanced 0 s) : Enclosed 0 (.scalar '<' :: s ++ [CodePoint.scalar '>']) :=
  (nested_open_iff (by decide)).2 h.concat_close

end KotlinPreferences.TypeRef
