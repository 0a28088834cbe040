import KotlinPreferences.Proofs.Text.Blank
import KotlinPreferences.Proofs.TypeRef.Pieces
import KotlinPreferences.Proofs.Steps

/-!
# Spellings of a type reference

The text of a reference consists of tokens: the names in it, and the marks `<`, `,`, `>` and `?`.
Blanks may stand around each of them.

* `tokens`, `Spaced`: the tokens of a reference, and a text that consists of some tokens;
* `Spells`: a text spells a reference; `spells_chars`: its own text does;
* `PlainName`, `Plain`: a name shows which token it is, and so do all names in a reference;
* `isPlainName`: the same of a name, as a check;
* `spells_cases`: the parts of a spelling;
* `neutral_of_spells`: no comma cuts a spelling of a plain reference.
-/

namespace KotlinPreferences.TypeRef

open Text (isBlank isBlankText)

/-! ### Texts of tokens -/

mutual

/-- The tokens of a reference, in order. -/
def tokens : TypeRef → List (List CodePoint)
  | ⟨name, nullable, arguments⟩ =>
    name.toList :: (argumentTokens arguments ++ if nullable then [[CodePoint.scalar '?']] else [])

/-- The tokens of the type arguments with their brackets, and none where there are none. -/
def argumentTokens : List TypeRef → List (List CodePoint)
  | [] => []
  | a :: rest => [CodePoint.scalar '<'] :: (a.tokens ++ (furtherTokens rest ++ [[CodePoint.scalar '>']]))

/-- The tokens of the type arguments after the first, each behind a comma. -/
def furtherTokens : List TypeRef → List (List CodePoint)
  | [] => []
  | a :: rest => [CodePoint.scalar ','] :: (a.tokens ++ furtherTokens rest)

end

/-- A text consists of some tokens in order, with any blanks before, between and behind them. -/
inductive Spaced : List (List CodePoint) → List CodePoint → Prop
  | nil {blanks : List CodePoint} (hblanks : isBlankText blanks = true) : Spaced [] blanks
  | cons {blanks token rest : List CodePoint} {more : List (List CodePoint)}
      (hblanks : isBlankText blanks = true) (hrest : Spaced more rest) :
      Spaced (token :: more) (blanks ++ token ++ rest)

/-- A text spells a reference. -/
def Spells (t : TypeRef) (s : List CodePoint) : Prop := Spaced t.tokens s

variable {t : TypeRef} {name : Text} {nullable : Bool} {arguments : List TypeRef}
  {ts us : List (List CodePoint)} {s r blanks : List CodePoint}

theorem isBlankText_append (hs : isBlankText s = true) (hr : isBlankText r = true) :
    isBlankText (s ++ r) = true := by
  rw [isBlankText, List.all_append, Bool.and_eq_true]
  exact ⟨hs, hr⟩

theorem Spaced.append_blanks (h : Spaced ts s) (hblanks : isBlankText blanks = true) :
    Spaced ts (s ++ blanks) := by
  induction h with
  | nil hs => exact .nil (isBlankText_append hs hblanks)
  | cons hs _ ih =>
    rw [List.append_assoc]
    exact .cons hs ih

theorem Spaced.prepend_blanks (h : Spaced ts s) (hblanks : isBlankText blanks = true) :
    Spaced ts (blanks ++ s) := by
  cases h with
  | nil hs => exact .nil (isBlankText_append hblanks hs)
  | cons hs hrest =>
    rw [← List.append_assoc, ← List.append_assoc]
    exact .cons (isBlankText_append hblanks hs) hrest

theorem Spaced.append (hs : Spaced ts s) (hr : Spaced us r) : Spaced (ts ++ us) (s ++ r) := by
  induction hs with
  | nil hblanks => exact hr.prepend_blanks hblanks
  | cons hblanks _ ih =>
    rw [List.append_assoc]
    exact .cons hblanks ih

/-- A text of two lists of tokens falls into a text of each. -/
theorem Spaced.split (h : Spaced (ts ++ us) s) : ∃ s₁ s₂, s = s₁ ++ s₂ ∧ Spaced ts s₁ ∧
    Spaced us s₂ := by
  induction ts generalizing s with
  | nil => exact ⟨[], s, rfl, .nil rfl, h⟩
  | cons token more ih =>
    cases h with
    | cons hblanks hrest =>
      obtain ⟨s₁, s₂, rfl, hmore, hus⟩ := ih hrest
      exact ⟨_, s₂, (List.append_assoc _ _ _).symm, .cons hblanks hmore, hus⟩

/-! ### The text of a reference is one of its spellings -/

theorem spaced_singleton (token : List CodePoint) : Spaced [token] token := by
  have hnil : Spaced [] [] := .nil rfl
  have h : Spaced [token] ([] ++ token ++ []) := .cons rfl hnil
  rwa [List.nil_append, List.append_nil] at h

theorem spaced_furtherChars (h : ∀ a ∈ arguments, Spells a a.chars) :
    Spaced (furtherTokens arguments) (furtherChars arguments) := by
  induction arguments with
  | nil => exact .nil rfl
  | cons a rest ih =>
    have hrest := ih fun b hb => h b (by simp [hb])
    -- the space behind the comma is a blank in front of the argument
    have hspace : isBlankText [CodePoint.scalar ' '] = true := by decide
    have hargument := (h a (by simp)).prepend_blanks hspace
    exact (spaced_singleton [CodePoint.scalar ',']).append (hargument.append hrest)

theorem spaced_argumentChars (h : ∀ a ∈ arguments, Spells a a.chars) :
    Spaced (argumentTokens arguments) (argumentChars arguments) := by
  cases arguments with
  | nil => exact .nil rfl
  | cons a rest =>
    have hrest := spaced_furtherChars fun b hb => h b (List.mem_cons_of_mem a hb)
    have hinner := (h a (by simp)).append (hrest.append (spaced_singleton [CodePoint.scalar '>']))
    simpa [argumentTokens, argumentChars] using (spaced_singleton [CodePoint.scalar '<']).append hinner

/-- The text of a reference spells it. -/
theorem spells_chars (t : TypeRef) : Spells t t.chars := by
  induction t with
  | mk name nullable arguments ih =>
    have harguments := spaced_argumentChars ih
    have hmark : Spaced (if nullable then [[CodePoint.scalar '?']] else []) (if nullable then [CodePoint.scalar '?'] else []) := by
      cases nullable with
      | false => exact .nil rfl
      | true => exact spaced_singleton [CodePoint.scalar '?']
    have hall := (spaced_singleton name.toList).append (harguments.append hmark)
    simpa [Spells, tokens, chars] using hall

/-! ### Plain references -/

/-- A name that shows which token it is: it is not empty, no blank stands at its ends, and no mark
in it. -/
structure PlainName (name : Text) : Prop where
  nonempty : name ≠ ""
  trimmed : Text.Trimmed name.toList
  unmarked : ∀ c ∈ name.toList, c ≠ '<' ∧ c ≠ '>' ∧ c ≠ ',' ∧ c ≠ '?'

/-- Whether a name shows which token it is. -/
def isPlainName (name : Text) : Bool :=
  name != "" && name.toList.head?.all (!isBlank ·) && name.toList.getLast?.all (!isBlank ·) &&
    name.toList.all fun c => c != CodePoint.scalar '<' && c != CodePoint.scalar '>' && c != CodePoint.scalar ',' && c != CodePoint.scalar '?'

theorem isPlainName_iff : isPlainName name = true ↔ PlainName name := by
  simp only [isPlainName, Bool.and_eq_true, bne_iff_ne, Option.all_eq_true, List.all_eq_true,
    Bool.not_eq_true', and_assoc]
  constructor
  · rintro ⟨hne, hhead, hlast, hmarks⟩
    exact ⟨hne, ⟨hhead, hlast⟩, hmarks⟩
  · rintro ⟨hne, ⟨hhead, hlast⟩, hmarks⟩
    exact ⟨hne, hhead, hlast, hmarks⟩

instance : Decidable (PlainName name) := decidable_of_iff _ isPlainName_iff

/-- Every name in a reference, at every depth, shows which token it is. -/
inductive Plain : TypeRef → Prop
  | mk {name : Text} {nullable : Bool} {arguments : List TypeRef} (hname : PlainName name)
      (harguments : ∀ a ∈ arguments, Plain a) : Plain ⟨name, nullable, arguments⟩

theorem PlainName.toList_ne_nil (h : PlainName name) : name.toList ≠ [] := by
  simpa using h.nonempty

/-! ### The parts of a spelling -/

/-- The text of type arguments with their brackets, from the blanks in front of the first bracket to
the last one. -/
inductive Bracketed : List TypeRef → List CodePoint → Prop
  | none : Bracketed [] []
  | some {arguments : List TypeRef} {blanks : List CodePoint} {parts : List (List CodePoint)}
      (hne : arguments ≠ []) (hblanks : isBlankText blanks = true)
      (hparts : List.Forall₂ Spells arguments parts) :
      Bracketed arguments (blanks ++ (.scalar '<' :: List.intercalate [CodePoint.scalar ','] parts ++ [CodePoint.scalar '>']))

/-- The mark for null with the blanks in front of it, or nothing. -/
inductive Marked : Bool → List CodePoint → Prop
  | absent : Marked false []
  | present {blanks : List CodePoint} (hblanks : isBlankText blanks = true) :
      Marked true (blanks ++ [CodePoint.scalar '?'])

/-- The first argument and what follows it are texts joined by commas. -/
theorem parts_of_spaced {a : TypeRef} {first further : List CodePoint} (ha : Spells a first)
    (hfurther : Spaced (furtherTokens arguments) further) :
    ∃ parts, first ++ further = List.intercalate [CodePoint.scalar ','] parts ∧
      List.Forall₂ Spells (a :: arguments) parts := by
  induction arguments generalizing a first further with
  | nil =>
    cases hfurther with
    | nil hblanks => exact ⟨[first ++ further], by simp, .cons (ha.append_blanks hblanks) .nil⟩
  | cons b rest ih =>
    cases hfurther with
    | cons hblanks hmore =>
      obtain ⟨next, others, rfl, hnext, hothers⟩ := hmore.split
      obtain ⟨parts, htext, hparts⟩ := ih hnext hothers
      refine ⟨(first ++ _) :: parts, ?_, .cons (ha.append_blanks hblanks) hparts⟩
      cases hparts with
      | cons _ _ =>
        rw [List.intercalate_cons_cons, ← htext]
        simp

theorem bracketed_of_spaced (h : Spaced (argumentTokens arguments) s) :
    ∃ brackets after, s = brackets ++ after ∧ Bracketed arguments brackets ∧
      isBlankText after = true := by
  cases arguments with
  | nil =>
    cases h with
    | nil hblanks => exact ⟨[], s, rfl, .none, hblanks⟩
  | cons a rest =>
    cases h with
    | cons hblanks hinner =>
      obtain ⟨first, others, rfl, hfirst, hothers⟩ := hinner.split
      obtain ⟨further, close, rfl, hfurther, hclose⟩ := hothers.split
      cases hclose with
      | cons hend hnil =>
        cases hnil with
        | nil hafter =>
          -- the blanks in front of the last bracket belong to the last argument
          obtain ⟨parts, htext, hparts⟩ := parts_of_spaced hfirst (hfurther.append_blanks hend)
          refine ⟨_, _, ?_, .some (by simp) hblanks hparts, hafter⟩
          rw [← htext]
          simp

/-- A spelling is a name, the bracketed arguments and the mark for null, with blanks around. -/
theorem spells_cases (h : Spells ⟨name, nullable, arguments⟩ s) :
    ∃ before brackets mark after, s = before ++ (name.toList ++ brackets ++ mark) ++ after ∧
      isBlankText before = true ∧ Bracketed arguments brackets ∧ Marked nullable mark ∧
      isBlankText after = true := by
  cases h with
  | cons hbefore hrest =>
    obtain ⟨_, rest, rfl, hbrackets, hmark⟩ := hrest.split
    obtain ⟨brackets, between, rfl, hbracketed, hbetween⟩ := bracketed_of_spaced hbrackets
    cases nullable with
    | false =>
      cases hmark with
      | nil hblanks =>
        refine ⟨_, brackets, [], between ++ rest, ?_, hbefore, hbracketed, .absent,
          isBlankText_append hbetween hblanks⟩
        simp
    | true =>
      cases hmark with
      | cons hblanks hnil =>
        cases hnil with
        | nil hafter =>
          refine ⟨_, brackets, _, _, ?_, hbefore, hbracketed,
            .present (isBlankText_append hbetween hblanks), hafter⟩
          simp

/-! ### Commas in a spelling -/

theorem unmarked_of_blanks (h : isBlankText blanks = true) :
    ∀ c ∈ blanks, c ≠ '<' ∧ c ≠ '>' ∧ c ≠ ',' := by
  intro c hc
  have hblank : isBlank c = true := by
    simp only [isBlankText, List.all_eq_true] at h
    exact h c hc
  refine ⟨?_, ?_, ?_⟩ <;> rintro rfl <;> exact absurd hblank (by decide)

theorem neutral_of_blanks (h : isBlankText blanks = true) {least : Nat} : Neutral least blanks :=
  neutral_of_forall (unmarked_of_blanks h)

theorem PlainName.neutral (h : PlainName name) {least : Nat} : Neutral least name.toList :=
  neutral_of_forall fun c hc =>
    have hc := h.unmarked c hc
    ⟨hc.1, hc.2.1, hc.2.2.1⟩

theorem Marked.neutral {mark : List CodePoint} (h : Marked nullable mark) {least : Nat} :
    Neutral least mark := by
  cases h with
  | absent => exact .nil
  | present hblanks =>
    exact (neutral_of_blanks hblanks).append
      (neutral_singleton (by decide) (by decide) (by decide))

/-- No comma cuts a spelling of a plain reference. -/
theorem neutral_of_spells (ht : Plain t) (h : Spells t s) : Neutral 0 s := by
  induction t generalizing s with
  | mk name nullable arguments ih =>
    cases ht with
    | mk hname harguments =>
      obtain ⟨before, brackets, mark, after, rfl, hbefore, hbrackets, hmark, hafter⟩ :=
        spells_cases h
      have hneutral : Neutral 0 brackets := by
        cases hbrackets with
        | none => exact .nil
        | some _ hblanks hparts =>
          refine (neutral_of_blanks hblanks).append (neutral_intercalate fun p hp => ?_).bracketed
          obtain ⟨a, ha, hspells⟩ := exists_of_mem_forall₂ hparts hp
          exact ih a ha (harguments a ha) hspells
      exact ((neutral_of_blanks hbefore).append ((hname.neutral.append hneutral).append
        hmark.neutral)).append (neutral_of_blanks hafter)

end KotlinPreferences.TypeRef
