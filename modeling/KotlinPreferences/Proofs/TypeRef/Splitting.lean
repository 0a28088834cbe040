import KotlinPreferences.Failure
import KotlinPreferences.Proofs.TypeRef.Nesting
import Mathlib.Data.List.Induction

/-!
# Where type arguments are cut

What stands between two angle brackets is cut at the commas outside of all further brackets, and at no
others. Here the cut is told by the text alone: by how many brackets stand in front of a character.

* `Level`, `balanced_iff`, `enclosed_iff`: brackets that match, and commas that stand between them, by
  counting;
* `pieces_of_enclosed`, `pieces_append_comma`, `intercalate_of_pieces`: the pieces of a text without
  outer commas, the pieces on both sides of one, and how all of them are joined again;
* `exists_pieces_iff`: a text is cut if its brackets match;
* `MaximalPiece`, `mem_pieces_iff`: what stands between two outer commas is a piece, and nothing else;
* `splitArguments_eq_ok_iff`, `splitArguments_eq_error_iff`: the type arguments of a text, and what is
  wrong with a text that has none;
* `splitArguments_exact`: which texts have any.
-/

namespace KotlinPreferences.TypeRef

open Text (isBlank isBlankText)

variable {s p b a : List CodePoint} {depth : Nat} {ps : List (List CodePoint)}

/-! ### Counting brackets -/

/-- As many brackets are opened in a text as are closed in it. -/
def Level (s : List CodePoint) : Prop := s.count (.scalar '<') = s.count (.scalar '>')

/-- Neither a text of this kind nor a comma behind it changes how many brackets are open. -/
theorem level_append_comma_iff (hb : Level b) : Level (b ++ .scalar ',' :: s) ↔ Level s := by
  simp only [Level, List.count_append, List.count_cons_of_ne (show CodePoint.scalar ',' ≠ .scalar '<' by decide),
    List.count_cons_of_ne (show CodePoint.scalar ',' ≠ .scalar '>' by decide)] at hb ⊢
  omega

/-- Nowhere in a text more brackets are closed than were opened, and in the end all are closed. -/
theorem balanced_iff : Balanced 0 s ↔
    (∀ p, p <+: s → p.count (.scalar '>') ≤ p.count (.scalar '<')) ∧ Level s := by
  constructor
  · intro h
    refine ⟨fun p => ?_, by simpa [Level] using h.closed.symm⟩
    -- only its last character can make a beginning close one bracket too many
    induction p using List.reverseRecOn with
    | nil => simp
    | append_singleton p c ih =>
      intro hp
      have hbelow := ih ((List.prefix_append p [c]).trans hp)
      rw [List.count_append, List.count_append]
      by_cases hc : c = '>'
      · subst hc
        have := h.inside '>' (by simp) p hp
        rw [List.count_singleton_self]
        omega
      · rw [List.count_singleton, if_neg (by simpa using hc)]
        omega
  · rintro ⟨hbelow, hlevel⟩
    refine ⟨fun c hc p hp => ?_, by simpa [Level] using hlevel.symm⟩
    obtain rfl := List.mem_singleton.1 hc
    have := hbelow _ hp
    rw [List.count_append, List.count_append, List.count_singleton_self,
      List.count_eq_zero.2 (show .scalar '<' ∉ [CodePoint.scalar '>'] by decide)] at this
    omega

/-- The brackets match, and in front of every comma some are open. -/
theorem enclosed_iff : Enclosed 0 p ↔
    Balanced 0 p ∧ ∀ q r, p = q ++ .scalar ',' :: r → ¬Level q := by
  constructor
  · intro h
    refine ⟨⟨fun c hc => h.inside c (by simp [List.mem_singleton.1 hc]), h.closed⟩, ?_⟩
    rintro q r rfl hlevel
    have := h.inside ',' (by simp) q ⟨r, by simp⟩
    rw [Level] at hlevel
    omega
  · rintro ⟨h, hcommas⟩
    refine ⟨fun c hc q hq => ?_, h.closed⟩
    obtain rfl | rfl : c = '>' ∨ c = ',' := by simpa using hc
    · exact h.inside '>' (by simp) q hq
    · obtain ⟨r, rfl⟩ := hq
      have hne : q.count (.scalar '<') ≠ q.count (.scalar '>') := hcommas q r (by simp)
      have := (balanced_iff.1 h).1 q ⟨.scalar ',' :: r, by simp⟩
      omega

/-- A beginning of a text whose brackets match has itself brackets that match, if all that are opened
in it are closed in it. -/
theorem Balanced.beginning (h : Balanced 0 s) (hb : b <+: s) (hlevel : Level b) : Balanced 0 b :=
  balanced_iff.2 ⟨fun p hp => (balanced_iff.1 h).1 p (hp.trans hb), hlevel⟩

/-! ### Cutting and joining -/

/-- A text without outer commas is its only piece. -/
theorem pieces_of_enclosed (h : Enclosed depth s) : pieces depth s = some [s] := by
  induction s generalizing depth with
  | nil => rw [pieces, if_pos (nested_nil_iff.1 h)]
  | cons c rest ih =>
    rw [pieces]
    by_cases hopen : c = '<'
    · subst hopen
      rw [if_pos rfl, ih ((nested_open_iff (by decide)).1 h)]
      rfl
    rw [if_neg hopen]
    by_cases hclose : c = '>'
    · subst hclose
      obtain ⟨hpos, hrest⟩ := (nested_close_iff (by decide)).1 h
      rw [if_pos rfl, if_neg (Nat.ne_of_gt hpos), ih hrest]
      rfl
    · obtain ⟨hinside, hrest⟩ := (nested_cons_iff hopen hclose).1 h
      have houter : ¬(c = ',' ∧ depth = 0) := by
        rintro ⟨rfl, rfl⟩
        exact absurd (hinside (by simp)) (by decide)
      rw [if_neg hclose, if_neg houter, ih hrest]
      rfl

theorem onFirst_append (c : CodePoint) (hne : ps ≠ []) (qs : List (List CodePoint)) :
    onFirst c (ps ++ qs) = onFirst c ps ++ qs := by
  cases ps with
  | nil => exact absurd rfl hne
  | cons p rest => rfl

theorem ne_nil_of_pieces (h : pieces depth s = some ps) : ps ≠ [] := by
  obtain ⟨-, first, rest, rfl, -⟩ := nested_of_pieces h
  exact List.cons_ne_nil first rest

/-- An outer comma parts the pieces of the text in front of it from those of the text behind it. -/
theorem pieces_append_comma (h : pieces depth b = some ps) :
    pieces depth (b ++ .scalar ',' :: a) = (pieces 0 a).map (ps ++ ·) := by
  induction b generalizing depth ps with
  | nil =>
    rw [pieces] at h
    split_ifs at h with hdepth
    cases h
    rw [List.nil_append, pieces, if_neg (by decide), if_neg (by decide), if_pos ⟨rfl, hdepth⟩]
    rfl
  | cons c rest ih =>
    rw [pieces] at h
    rw [List.cons_append, pieces]
    -- one more character in front changes the first piece, which stands in front of the comma
    have hfirst : ∀ {d qs}, pieces d rest = some qs →
        (pieces d (rest ++ .scalar ',' :: a)).map (onFirst c) = (pieces 0 a).map (onFirst c qs ++ ·) := by
      intro d qs hqs
      rw [ih hqs, Option.map_map]
      exact congrArg (Option.map · _) (funext fun more =>
        onFirst_append c (ne_nil_of_pieces hqs) more)
    split_ifs at h ⊢ with hopen hclose hdepth hcomma
    · obtain ⟨qs, hqs, rfl⟩ := Option.map_eq_some_iff.1 h
      exact hfirst hqs
    · obtain ⟨qs, hqs, rfl⟩ := Option.map_eq_some_iff.1 h
      exact hfirst hqs
    · obtain ⟨qs, hqs, rfl⟩ := Option.map_eq_some_iff.1 h
      rw [ih hqs, Option.map_map]
      rfl
    · obtain ⟨qs, hqs, rfl⟩ := Option.map_eq_some_iff.1 h
      exact hfirst hqs

theorem intercalate_onFirst (c : CodePoint) (hne : ps ≠ []) :
    List.intercalate [CodePoint.scalar ','] (onFirst c ps) = c :: List.intercalate [CodePoint.scalar ','] ps := by
  cases ps with
  | nil => exact absurd rfl hne
  | cons p rest =>
    cases rest with
    | nil => simp [onFirst]
    | cons q more => simp [onFirst, List.intercalate_cons_cons]

/-- The pieces of a text, joined by commas, are the text. -/
theorem intercalate_of_pieces (h : pieces depth s = some ps) : List.intercalate [CodePoint.scalar ','] ps = s := by
  induction s generalizing depth ps with
  | nil =>
    rw [pieces] at h
    split_ifs at h
    cases h
    rfl
  | cons c rest ih =>
    rw [pieces] at h
    split_ifs at h with hopen hclose hdepth hcomma
    · obtain ⟨qs, hqs, rfl⟩ := Option.map_eq_some_iff.1 h
      rw [intercalate_onFirst c (ne_nil_of_pieces hqs), ih hqs]
    · obtain ⟨qs, hqs, rfl⟩ := Option.map_eq_some_iff.1 h
      rw [intercalate_onFirst c (ne_nil_of_pieces hqs), ih hqs]
    · obtain ⟨rfl, rfl⟩ := hcomma
      obtain ⟨qs, hqs, rfl⟩ := Option.map_eq_some_iff.1 h
      obtain ⟨q, more, rfl⟩ := List.exists_cons_of_ne_nil (ne_nil_of_pieces hqs)
      rw [List.intercalate_cons_cons, ih hqs]
      rfl
    · obtain ⟨qs, hqs, rfl⟩ := Option.map_eq_some_iff.1 h
      rw [intercalate_onFirst c (ne_nil_of_pieces hqs), ih hqs]

/-- A text is cut if its brackets match, and only then. -/
theorem exists_pieces_iff : (∃ ps, pieces depth s = some ps) ↔ Balanced depth s := by
  refine ⟨fun ⟨ps, hps⟩ => (nested_of_pieces hps).1, fun h => ?_⟩
  induction s generalizing depth with
  | nil => exact ⟨[[]], by rw [pieces, if_pos (nested_nil_iff.1 h)]⟩
  | cons c rest ih =>
    rw [pieces]
    split_ifs with hopen hclose hdepth hcomma
    · subst hopen
      obtain ⟨ps, hps⟩ := ih ((nested_open_iff (by decide)).1 h)
      exact ⟨_, by rw [hps]; rfl⟩
    · subst hclose
      exact absurd hdepth (Nat.ne_of_gt ((nested_close_iff (by decide)).1 h).1)
    · subst hclose
      obtain ⟨ps, hps⟩ := ih ((nested_close_iff (by decide)).1 h).2
      exact ⟨_, by rw [hps]; rfl⟩
    · obtain ⟨rfl, rfl⟩ := hcomma
      obtain ⟨ps, hps⟩ := ih ((nested_cons_iff hopen hclose).1 h).2
      exact ⟨_, by rw [hps]; rfl⟩
    · obtain ⟨ps, hps⟩ := ih ((nested_cons_iff hopen hclose).1 h).2
      exact ⟨_, by rw [hps]; rfl⟩

/-! ### What stands between two outer commas -/

/-- A part of a text that reaches from an outer comma, or the beginning, to the next outer comma, or
the end. A comma is an outer one if as many brackets are closed in front of it as are opened. -/
def MaximalPiece (s p : List CodePoint) : Prop :=
  ∃ before after, s = before ++ p ++ after ∧
    (before = [] ∨ ∃ b, before = b ++ [CodePoint.scalar ','] ∧ Level b) ∧
    (after = [] ∨ ∃ a, after = .scalar ',' :: a ∧ Level (before ++ p)) ∧
    ∀ q r, p = q ++ .scalar ',' :: r → ¬Level (before ++ q)

theorem MaximalPiece.prepend (h : MaximalPiece s p) (hb : Level b) :
    MaximalPiece (b ++ .scalar ',' :: s) p := by
  obtain ⟨before, after, rfl, hbefore, hafter, hcommas⟩ := h
  refine ⟨b ++ .scalar ',' :: before, after, by simp, .inr ?_, ?_, fun q r hp => ?_⟩
  · rcases hbefore with rfl | ⟨front, rfl, hfront⟩
    · exact ⟨b, rfl, hb⟩
    · exact ⟨b ++ .scalar ',' :: front, by simp, (level_append_comma_iff hb).2 hfront⟩
  · refine hafter.imp_right fun ⟨behind, hbehind, hlevel⟩ => ⟨behind, hbehind, ?_⟩
    rw [List.append_assoc, List.cons_append]
    exact (level_append_comma_iff hb).2 hlevel
  · rw [List.append_assoc, List.cons_append, level_append_comma_iff hb]
    exact hcommas q r hp

/-- Each of some texts without outer commas stands between outer commas where they are joined. -/
theorem maximalPiece_of_mem (h : ∀ p ∈ ps, Enclosed 0 p) (hp : p ∈ ps) :
    MaximalPiece (List.intercalate [CodePoint.scalar ','] ps) p := by
  induction ps with
  | nil => cases hp
  | cons first rest ih =>
    obtain ⟨hfirst, hrest⟩ := List.forall_mem_cons.1 h
    obtain ⟨hbalanced, hcommas⟩ := enclosed_iff.1 hfirst
    have hlevel := (balanced_iff.1 hbalanced).2
    cases rest with
    | nil =>
      obtain rfl := List.mem_singleton.1 hp
      exact ⟨[], [], by simp, .inl rfl, .inl rfl, hcommas⟩
    | cons second more =>
      rw [List.intercalate_cons_cons, List.append_assoc, List.singleton_append]
      rcases List.mem_cons.1 hp with rfl | hp
      · exact ⟨[], _, rfl, .inl rfl, .inr ⟨_, rfl, hlevel⟩, hcommas⟩
      · exact (ih hrest hp).prepend hlevel

/-- The pieces of a text are those on one side of an outer comma and those on the other. -/
theorem pieces_sides (h : pieces 0 (b ++ .scalar ',' :: a) = some ps) (hb : Level b) :
    ∃ qs rs, pieces 0 b = some qs ∧ pieces 0 a = some rs ∧ ps = qs ++ rs := by
  obtain ⟨qs, hqs⟩ := exists_pieces_iff.2
    ((nested_of_pieces h).1.beginning (List.prefix_append b _) hb)
  rw [pieces_append_comma hqs] at h
  obtain ⟨rs, hrs, rfl⟩ := Option.map_eq_some_iff.1 h
  exact ⟨qs, rs, hqs, hrs, rfl⟩

/-- What stands in front of the first outer comma is a piece. -/
theorem mem_pieces_of_first {after : List CodePoint} (h : pieces 0 (p ++ after) = some ps)
    (hafter : after = [] ∨ ∃ a, after = .scalar ',' :: a ∧ Level p)
    (hcommas : ∀ q r, p = q ++ .scalar ',' :: r → ¬Level q) : p ∈ ps := by
  have hbalanced := (nested_of_pieces h).1
  rcases hafter with rfl | ⟨a, rfl, hlevel⟩
  · rw [List.append_nil] at h hbalanced
    rw [pieces_of_enclosed (enclosed_iff.2 ⟨hbalanced, hcommas⟩)] at h
    cases h
    exact List.mem_singleton_self p
  · obtain ⟨qs, rs, hqs, -, rfl⟩ := pieces_sides h hlevel
    rw [pieces_of_enclosed (enclosed_iff.2
      ⟨hbalanced.beginning (List.prefix_append p _) hlevel, hcommas⟩)] at hqs
    cases hqs
    exact List.mem_append_left rs (List.mem_singleton_self p)

/-- **The pieces of a text are what stands between its outer commas.** -/
theorem mem_pieces_iff (h : pieces 0 s = some ps) : p ∈ ps ↔ MaximalPiece s p := by
  constructor
  · intro hp
    obtain ⟨-, first, rest, rfl, hfirst, hrest⟩ := nested_of_pieces h
    rw [← intercalate_of_pieces h]
    exact maximalPiece_of_mem (List.forall_mem_cons.2 ⟨hfirst, hrest⟩) hp
  · rintro ⟨before, after, rfl, rfl | ⟨b, rfl, hb⟩, hafter, hcommas⟩
    · exact mem_pieces_of_first h hafter hcommas
    · -- the pieces in front of the comma before this one come first
      simp only [List.append_assoc, List.singleton_append] at h hafter hcommas
      obtain ⟨qs, rs, -, hrs, rfl⟩ := pieces_sides h hb
      simp only [level_append_comma_iff hb] at hafter hcommas
      exact List.mem_append_right qs (mem_pieces_of_first hrs hafter hcommas)

/-! ### Type arguments -/

theorem isBlankText_eq_false_iff : isBlankText s = false ↔ ∃ c ∈ s, isBlank c = false := by
  simp [isBlankText]

/-- A text has type arguments if its brackets match and no piece of it is blank. -/
theorem splitArguments_eq_ok_iff : splitArguments s = .ok ps ↔
    pieces 0 s = some ps ∧ ∀ p ∈ ps, isBlankText p = false := by
  unfold splitArguments
  split
  · rename_i hnone
    simp [hnone]
  · rename_i qs hqs
    rw [hqs, Option.some.injEq]
    split
    · rename_i hblank
      obtain ⟨q, hq, hq'⟩ := List.any_eq_true.1 hblank
      refine ⟨nofun, ?_⟩
      rintro ⟨rfl, hparts⟩
      rw [hparts q hq] at hq'
      cases hq'
    · rename_i hblank
      rw [Except.ok.injEq]
      refine ⟨?_, fun h => h.1⟩
      rintro rfl
      exact ⟨rfl, by simpa using hblank⟩

/-- Without type arguments a text has brackets that do not match, or else a blank piece. -/
theorem splitArguments_eq_error_iff {e : Malformed} : splitArguments s = .error e ↔
    ¬Balanced 0 s ∧ e = .unbalancedArguments (Text.ofList s) ∨
      Balanced 0 s ∧ (∃ p, MaximalPiece s p ∧ isBlankText p = true) ∧
        e = .emptyArgument (Text.ofList s) := by
  unfold splitArguments
  split
  · rename_i hnone
    have hbalanced : ¬Balanced 0 s := fun h => by
      obtain ⟨ps, hps⟩ := exists_pieces_iff.2 h
      rw [hnone] at hps
      cases hps
    rw [Except.error.injEq, eq_comm]
    simp [hbalanced]
  · rename_i ps hps
    have hblank : ps.any isBlankText = true ↔ ∃ p, MaximalPiece s p ∧ isBlankText p = true := by
      simp only [List.any_eq_true, mem_pieces_iff hps]
    have hbalanced := exists_pieces_iff.1 ⟨ps, hps⟩
    rw [← hblank]
    split
    · rename_i hany
      rw [Except.error.injEq]
      exact ⟨fun he => .inr ⟨hbalanced, hany, he.symm⟩, fun h => by
        rcases h with ⟨hnot, -⟩ | ⟨-, -, he⟩
        · exact absurd hbalanced hnot
        · exact he.symm⟩
    · rename_i hany
      simp [hbalanced, hany]

/-- **Which texts have type arguments.** Nowhere in the text more brackets may be closed than were
opened, in the end none may be open, and every piece must have a character that is not blank. The
pieces are then the type arguments. Joined by commas they are the text, the brackets of each match,
and in none stands a comma where all brackets in front of it are closed. Any other text is a bad
value. -/
theorem splitArguments_exact (inner : List CodePoint) :
    ((∃ parts, splitArguments inner = .ok parts) ↔
      (∀ p, p <+: inner → p.count (.scalar '>') ≤ p.count (.scalar '<')) ∧ inner.count (.scalar '<') = inner.count (.scalar '>') ∧
        ∀ p, MaximalPiece inner p → ∃ c ∈ p, isBlank c = false) ∧
    (∀ parts, splitArguments inner = .ok parts →
      List.intercalate [CodePoint.scalar ','] parts = inner ∧ (∀ p, p ∈ parts ↔ MaximalPiece inner p) ∧
      ∀ p ∈ parts, (∀ q, q <+: p → q.count (.scalar '>') ≤ q.count (.scalar '<')) ∧ p.count (.scalar '<') = p.count (.scalar '>') ∧
        ∀ q r, p = q ++ .scalar ',' :: r → q.count (.scalar '<') ≠ q.count (.scalar '>')) ∧
    ∀ e, splitArguments inner = .error e → (Failure.malformed e).family = .badValue ∧
      (e = .unbalancedArguments (Text.ofList inner) ∨ e = .emptyArgument (Text.ofList inner)) := by
  refine ⟨?_, fun parts hparts => ?_, fun e he => ⟨rfl, ?_⟩⟩
  · have hbalanced := balanced_iff (s := inner)
    rw [Level] at hbalanced
    rw [← and_assoc, ← hbalanced]
    constructor
    · rintro ⟨parts, hparts⟩
      obtain ⟨hpieces, hblank⟩ := splitArguments_eq_ok_iff.1 hparts
      exact ⟨(nested_of_pieces hpieces).1, fun p hp =>
        isBlankText_eq_false_iff.1 (hblank p ((mem_pieces_iff hpieces).2 hp))⟩
    · rintro ⟨h, hblank⟩
      obtain ⟨parts, hpieces⟩ := exists_pieces_iff.2 h
      exact ⟨parts, splitArguments_eq_ok_iff.2 ⟨hpieces, fun p hp =>
        isBlankText_eq_false_iff.2 (hblank p ((mem_pieces_iff hpieces).1 hp))⟩⟩
  · obtain ⟨hpieces, -⟩ := splitArguments_eq_ok_iff.1 hparts
    refine ⟨intercalate_of_pieces hpieces, fun p => mem_pieces_iff hpieces, fun p hp => ?_⟩
    obtain ⟨hbalanced, hcommas⟩ := enclosed_iff.1 ((enclosed_of_splitArguments hparts).2 p hp)
    obtain ⟨hbelow, hlevel⟩ := balanced_iff.1 hbalanced
    exact ⟨hbelow, hlevel, hcommas⟩
  · rcases splitArguments_eq_error_iff.1 he with ⟨-, rfl⟩ | ⟨-, -, rfl⟩
    · exact .inl rfl
    · exact .inr rfl

end KotlinPreferences.TypeRef
