import KotlinPreferences.Proofs.TypeRef.Spelling

/-!
# Encodings of a type reference

A reference is written as one of its spellings, or as an object with its name, its mark for null and
encodings of its arguments; the two forms may stand inside each other.

* `Encodes`: a value encodes a reference;
* `ofChars_of_spells`: a spelling of a plain reference is read as that reference;
* `ofValue_of_encodes`: so is every encoding of it.
-/

namespace KotlinPreferences

namespace TypeRef

open Text (isBlank isBlankText trim)

variable {t : TypeRef} {name : Text} {nullable : Bool} {arguments : List TypeRef}
  {s body front inner mark : List CodePoint} {parts : List (List CodePoint)} {members : Value.Members}

/-- A value encodes a reference. -/
inductive Encodes : TypeRef → Value → Prop
  /-- A text that spells it. -/
  | text {t : TypeRef} {s : Text} (hspells : Spells t s.toList) : Encodes t (.str s)
  /-- An object that holds its name, under `name` or else under `qualified_name`, with any blanks
  around it; a mark for null, which counts as false where it is missing; and encodings of its
  arguments. -/
  | object {name written : Text} {nullable : Bool} {arguments : List TypeRef}
      {members : Value.Members} {before after : List CodePoint} {items : List Value}
      (hname : Value.member? members "name" = some (.str written) ∨
        Value.member? members "name" = none ∧
          Value.member? members "qualified_name" = some (.str written))
      (hwritten : written.toList = before ++ name.toList ++ after)
      (hbefore : isBlankText before = true) (hafter : isBlankText after = true)
      (hnullable : ((Value.member? members "nullable").getD (.bool false)).truthy = nullable)
      (harguments : Value.member? members "arguments" = some (.arr items) ∨
        items = [] ∧ (Value.member? members "arguments" = none ∨
          Value.member? members "arguments" = some .null))
      (hitems : List.Forall₂ Encodes arguments items) :
      Encodes ⟨name, nullable, arguments⟩ (.obj members)

/-! ### Reading a text -/

/-- Of the marks for null at the end of a text the last is taken away, and no other. -/
theorem splitMark_of_marked (hlast : ∀ c ∈ body.getLast?, isBlank c = false)
    (hplain : nullable = false → body.getLast? ≠ some (CodePoint.scalar '?')) (h : Marked nullable mark) :
    splitMark (body ++ mark) = (body, nullable) := by
  cases h with
  | absent => rw [List.append_nil, splitMark, if_neg (hplain rfl)]
  | present hblanks =>
    rw [splitMark, ← List.append_assoc, List.getLast?_concat, if_pos rfl, List.dropLast_concat,
      Text.trimEnd_append_of_blanks hlast hblanks]

/-- Taking the mark for null away bares no blank. -/
theorem trimmed_splitMark (hs : Text.Trimmed s) : Text.Trimmed (splitMark s).1 := by
  unfold splitMark
  split
  · exact Text.trimmed_trimEnd fun c hc =>
      hs.head c (Text.mem_head?_of_isPrefix (List.dropLast_prefix s) hc)
  · exact hs

/-- A text without brackets and commas denotes the reference of that name. -/
theorem ofChars_of_unbracketed (hmark : splitMark s = (body, nullable))
    (hbody : ∀ c ∈ body, c ≠ '<' ∧ c ≠ '>' ∧ c ≠ ',') :
    ofChars s = .ok ⟨Text.ofList body, nullable, []⟩ := by
  have hopen : .scalar '<' ∉ body := fun h => (hbody _ h).1 rfl
  have hclose : .scalar '>' ∉ body := fun h => (hbody _ h).2.1 rfl
  have hcomma : .scalar ',' ∉ body := fun h => (hbody _ h).2.2 rfl
  rw [ofChars, hmark]
  simp only [hopen, hclose, hcomma, dite_false, or_self, if_false]

theorem between_of_not_mem (hfront : .scalar '<' ∉ front) :
    between (front ++ (.scalar '<' :: inner ++ [CodePoint.scalar '>'])) = inner := by
  have hall : ∀ c ∈ front, (c != CodePoint.scalar '<') = true := fun c hc => by
    simpa using fun h : c = '<' => hfront (h ▸ hc)
  rw [between, List.dropWhile_append_of_pos hall, List.cons_append,
    List.dropWhile_cons_of_neg (by decide), List.drop_succ_cons, List.drop_zero,
    List.dropLast_concat]

theorem takeWhile_of_not_mem (hfront : .scalar '<' ∉ front) :
    (front ++ (.scalar '<' :: inner ++ [CodePoint.scalar '>'])).takeWhile (· != CodePoint.scalar '<') = front := by
  have hall : ∀ c ∈ front, (c != CodePoint.scalar '<') = true := fun c hc => by
    simpa using fun h : c = '<' => hfront (h ▸ hc)
  rw [List.takeWhile_append_of_pos hall, List.cons_append,
    List.takeWhile_cons_of_neg (by decide), List.append_nil]

/-- A text with brackets denotes the reference with the arguments that stand between them. -/
theorem ofChars_of_bracketed (hmark : splitMark s = (front ++ (.scalar '<' :: inner ++ [CodePoint.scalar '>']), nullable))
    (hfront : .scalar '<' ∉ front) (hsplit : splitArguments inner = .ok parts)
    (harguments : parts.mapM (fun part => ofChars (trim part)) = .ok arguments) :
    ofChars s = .ok ⟨Text.ofList (trim front), nullable, arguments⟩ := by
  have hopen : .scalar '<' ∈ front ++ (.scalar '<' :: inner ++ [CodePoint.scalar '>']) := by simp
  have hlast : (front ++ (.scalar '<' :: inner ++ [CodePoint.scalar '>'])).getLast? = some (CodePoint.scalar '>') := by
    rw [← List.append_assoc, List.getLast?_concat]
  rw [ofChars, hmark]
  simp only [hopen, hlast, dite_true, if_true, takeWhile_of_not_mem hfront]
  rw [between_of_not_mem hfront]
  split
  · rename_i e heq
    rw [hsplit] at heq
    cases heq
  · rename_i found heq
    rw [hsplit] at heq
    cases heq
    simp [harguments]

/-- Texts joined by commas are read as those pieces, if no comma cuts them and none is blank. -/
theorem splitArguments_intercalate (hne : parts ≠ [])
    (hparts : ∀ p ∈ parts, Neutral 0 p ∧ isBlankText p = false) :
    splitArguments (List.intercalate [CodePoint.scalar ','] parts) = .ok parts := by
  have hblank : parts.any isBlankText = false := by
    rw [List.any_eq_false]
    intro p hp
    simp [(hparts p hp).2]
  rw [splitArguments, pieces_intercalate hne fun p hp => (hparts p hp).1]
  simp only [hblank, Bool.false_eq_true, if_false]

/-! ### Reading a spelling -/

/-- What stands in front of the mark for null ends in no blank and in no such mark. -/
theorem last_of_bracketed (hname : PlainName name) (h : Bracketed arguments s) :
    ∀ c ∈ (name.toList ++ s).getLast?, isBlank c = false ∧ c ≠ '?' := by
  intro c hc
  cases h with
  | none =>
    rw [List.append_nil] at hc
    exact ⟨hname.trimmed.last c hc, (hname.unmarked c (List.mem_of_getLast? hc)).2.2.2⟩
  | some _ _ _ =>
    rw [← List.append_assoc, ← List.append_assoc, List.getLast?_concat] at hc
    cases hc
    decide

theorem trimmed_of_marked (hname : PlainName name) (hbrackets : Bracketed arguments s)
    (hmark : Marked nullable mark) : Text.Trimmed (name.toList ++ s ++ mark) where
  head c hc := by
    rw [List.append_assoc, List.head?_append_of_ne_nil _ hname.toList_ne_nil] at hc
    exact hname.trimmed.head c hc
  last c hc := by
    cases hmark with
    | absent =>
      rw [List.append_nil] at hc
      exact (last_of_bracketed hname hbrackets c hc).1
    | present _ =>
      rw [← List.append_assoc, List.getLast?_concat] at hc
      cases hc
      decide

/-- A spelling of a plain reference is not blank. -/
theorem isBlankText_of_spells (ht : Plain t) (h : Spells t s) : isBlankText s = false := by
  cases ht with
  | @mk name nullable arguments hname _ =>
    obtain ⟨before, brackets, mark, after, rfl, -⟩ := spells_cases h
    obtain ⟨c, rest, hc⟩ := List.exists_cons_of_ne_nil hname.toList_ne_nil
    have hblank : isBlank c = false := hname.trimmed.head c (by rw [hc]; rfl)
    simp [isBlankText, hc, hblank]

/-- The arguments of a plain reference are read as the pieces that spell them. -/
theorem splitArguments_of_spells (hne : arguments ≠ []) (hplain : ∀ a ∈ arguments, Plain a)
    (hparts : List.Forall₂ Spells arguments parts) :
    splitArguments (List.intercalate [CodePoint.scalar ','] parts) = .ok parts := by
  refine splitArguments_intercalate ?_ fun p hp => ?_
  · rintro rfl
    cases hparts
    exact hne rfl
  · obtain ⟨a, ha, hspells⟩ := exists_of_mem_forall₂ hparts hp
    exact ⟨neutral_of_spells (hplain a ha) hspells, isBlankText_of_spells (hplain a ha) hspells⟩

/-- A spelling of a plain reference is read as that reference. -/
theorem ofChars_of_spells (ht : Plain t) (h : Spells t s) : ofChars (trim s) = .ok t := by
  induction t generalizing s with
  | mk name nullable arguments ih =>
    cases ht with
    | mk hname hplain =>
      obtain ⟨before, brackets, mark, after, rfl, hbefore, hbrackets, hmark, hafter⟩ :=
        spells_cases h
      rw [Text.trim_of_blanks_around (trimmed_of_marked hname hbrackets hmark) hbefore hafter]
      have hlast := last_of_bracketed hname hbrackets
      have hsplit := splitMark_of_marked (fun c hc => (hlast c hc).1)
        (fun _ hc => (hlast _ hc).2 rfl) hmark
      cases hbrackets with
      | none =>
        rw [List.append_nil] at hsplit ⊢
        rw [ofChars_of_unbracketed hsplit fun c hc => ?_, Text.ofList_toList]
        obtain ⟨hopen, hclose, hcomma, -⟩ := hname.unmarked c hc
        exact ⟨hopen, hclose, hcomma⟩
      | @some _ blanks parts hne hblanks hparts =>
        have harguments : parts.mapM (fun part => ofChars (trim part)) = .ok arguments :=
          mapM_of_forall₂ hparts fun a ha p hspells => ih a ha (hplain a ha) hspells
        have hfront : .scalar '<' ∉ name.toList ++ blanks := by
          rw [List.mem_append]
          rintro (hin | hin)
          · exact (hname.unmarked _ hin).1 rfl
          · exact (unmarked_of_blanks hblanks _ hin).1 rfl
        rw [← List.append_assoc] at hsplit
        have hread := ofChars_of_bracketed hsplit hfront
          (splitArguments_of_spells hne hplain hparts) harguments
        have hnone : isBlankText [] = true := rfl
        have htrim : trim (name.toList ++ blanks) = name.toList :=
          Text.trim_of_blanks_around hname.trimmed hnone hblanks
        rw [← List.append_assoc name.toList blanks, hread, htrim, Text.ofList_toList]

/-! ### Reading a value -/

theorem nameMember_eq {written : Text}
    (h : Value.member? members "name" = some (.str written) ∨
      Value.member? members "name" = none ∧
        Value.member? members "qualified_name" = some (.str written)) :
    nameMember members = .str written := by
  rcases h with h | ⟨hnone, h⟩
  · rw [nameMember, h, Option.getD_some]
  · rw [nameMember, hnone, Option.getD_none, Value.member, h, Option.getD_some]

/-- The arguments that an object gives. -/
def argumentsOf (members : Value.Members) : Except Malformed (List TypeRef) :=
  match Value.member? members "arguments" with
  | some (.arr items) => items.mapM ofValue
  | some v => if v.truthy then .error (.typeArgumentsNotList (.obj members)) else .ok []
  | none => .ok []

/-- An object with a name denotes the reference with the arguments that it gives. -/
theorem ofValue_obj {written : Text} (hname : nameMember members = .str written) :
    ofValue (.obj members) = argumentsOf members >>= fun arguments =>
      .ok ⟨Text.ofList (trim written.toList), (Value.member members "nullable").truthy,
        arguments⟩ := by
  rw [ofValue, argumentsOf]
  simp only [hname]
  split
  · rename_i items hitems
    simp [hitems]
  · rename_i v hother hv
    cases v with
    | arr items => exact absurd rfl (hother items)
    | _ =>
      simp only [hv, pure_eq_ok]
      split <;> rfl
  · rename_i hnone
    simp only [hnone, pure_eq_ok]

theorem argumentsOf_eq {items : List Value}
    (harguments : Value.member? members "arguments" = some (.arr items) ∨
      items = [] ∧ (Value.member? members "arguments" = none ∨
        Value.member? members "arguments" = some .null)) :
    argumentsOf members = items.mapM ofValue := by
  rw [argumentsOf]
  rcases harguments with hlist | ⟨rfl, hnone | hnull⟩
  · simp only [hlist]
  · simp only [hnone]
    rfl
  · simp only [hnull, Value.truthy_null, Bool.false_eq_true, if_false]
    rfl

/-- **Every encoding of a plain reference is read as that reference.** Its own text is one of
them. -/
theorem ofValue_of_encodes (ht : Plain t) :
    Encodes t (.str t.render) ∧ ∀ v, Encodes t v → ofValue v = .ok t := by
  refine ⟨.text (by rw [render, Text.toList_ofList]; exact spells_chars t), ?_⟩
  induction t with
  | mk name nullable arguments ih =>
    intro v hv
    cases hv with
    | text hspells =>
      rw [ofValue, ofText, ofChars_of_spells ht hspells]
    | @object _ written _ _ members before after items hname hwritten hbefore hafter hnullable
        harguments hitems =>
      cases ht with
      | mk hplainName hplain =>
        have hread : items.mapM ofValue = .ok arguments :=
          mapM_of_forall₂ hitems fun a ha item hitem => ih a ha (hplain a ha) item hitem
        have hmark : (Value.member members "nullable").truthy = nullable := by
          rw [← hnullable, Value.member]
          cases Value.member? members "nullable" <;> rfl
        rw [ofValue_obj (nameMember_eq hname), argumentsOf_eq harguments, hread, ok_bind, hwritten,
          Text.trim_of_blanks_around hplainName.trimmed hbefore hafter, hmark,
          Text.ofList_toList]

end TypeRef

namespace Sample

/-- A map from texts to lists of numbers. -/
def mapType : TypeRef :=
  ⟨"Map", true, [⟨"kotlin.String", false, []⟩, ⟨"List", false, [⟨"Int", true, []⟩]⟩]⟩

/-- An object with the map, in which one argument is an object and one a text. -/
def mapObject : Value :=
  .obj [("qualified_name", .str " Map\n"), ("nullable", .int 1), ("arguments", .arr
    [.obj [("name", .str "kotlin.String"), ("arguments", .null)], .str " List <Int ?\t> "])]

end Sample

namespace TypeRef

open Text (isBlankText)

/-- The map is read from its object. -/
theorem ofValue_mapObject : Plain Sample.mapType ∧ Encodes Sample.mapType Sample.mapObject ∧
    ofValue Sample.mapObject = .ok Sample.mapType := by
  have hspace : isBlankText [CodePoint.scalar ' '] = true := by decide
  have htab : isBlankText [CodePoint.scalar '\t'] = true := by decide
  have hbreak : isBlankText [CodePoint.scalar '\n'] = true := by decide
  have hnone : isBlankText [] = true := rfl
  have hnumberPlain : Plain ⟨"Int", true, []⟩ :=
    .mk (by decide) (by simp)
  have hlistPlain : Plain ⟨"List", false, [⟨"Int", true, []⟩]⟩ :=
    .mk (by decide) (by simpa using hnumberPlain)
  have htextPlain : Plain ⟨"kotlin.String", false, []⟩ :=
    .mk (by decide) (by simp)
  have hplain : Plain Sample.mapType :=
    .mk (by decide) (by simpa using ⟨htextPlain, hlistPlain⟩)
  have hlist : Spells ⟨"List", false, [⟨"Int", true, []⟩]⟩ (Text.toList " List <Int ?\t> ") :=
    .cons hspace (.cons hspace (.cons hnone (.cons hspace (.cons htab (.nil hspace)))))
  have htext : Encodes ⟨"kotlin.String", false, []⟩
      (.obj [("name", .str "kotlin.String"), ("arguments", .null)]) :=
    .object (.inl rfl) rfl hnone hnone rfl (.inr ⟨rfl, .inr rfl⟩) .nil
  have hobject : Encodes Sample.mapType Sample.mapObject :=
    .object (.inr ⟨rfl, rfl⟩) rfl hspace hbreak rfl (.inl rfl) (.cons htext (.cons (.text hlist) .nil))
  exact ⟨hplain, hobject, (ofValue_of_encodes hplain).2 _ hobject⟩

end TypeRef

end KotlinPreferences
