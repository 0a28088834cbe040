import KotlinPreferences.Proofs.TypeRef.Encoding
import KotlinPreferences.Proofs.TypeRef.Nesting

/-!
# The names in a reference that was read

An accepted text is a name, or a name with type arguments between brackets. What stands between the
brackets is cut at its commas only where the brackets match, so from the first bracket on every mark
is in its place. What stands in front of the first bracket is looked at only where there is none.

* `ofChars_cases`: the two forms of an accepted text;
* `exists_margins`: what stands around them;
* `EveryName`, `Unmarked`: a property of all names in a reference, and that of having no brackets and
  commas;
* `everyName_of_enclosed`, `everyName_of_arguments`: the names that have none, whatever the text;
* `names_of_ofValue`: when all names have none;
* `names_of_marked`: a text of which the name has some.
-/

namespace KotlinPreferences.TypeRef

open Text (isBlankText trim exists_blanks_around exists_blanks_behind)

variable {t : TypeRef} {P : Text → Prop} {nullable : Bool} {arguments : List TypeRef}
  {s r body front inner mark : List CodePoint} {parts : List (List CodePoint)}

/-! ### The forms of an accepted text -/

theorem exists_of_splitMark (h : splitMark s = (body, nullable)) :
    ∃ mark, s = body ++ mark ∧ Marked nullable mark := by
  unfold splitMark at h
  split at h
  · rename_i hlast
    cases h
    obtain ⟨blanks, hbody, hblanks⟩ := exists_blanks_behind s.dropLast
    refine ⟨blanks ++ [CodePoint.scalar '?'], ?_, .present hblanks⟩
    rw [← List.append_assoc, ← hbody]
    exact (List.dropLast_append_getLast? _ hlast).symm
  · cases h
    exact ⟨[], (List.append_nil s).symm, .absent⟩

/-- From a text that ends in a bracket only the mark for null is taken away. -/
theorem splitMark_of_bracketed (front inner : List CodePoint) (hmark : Marked nullable mark) :
    splitMark (front ++ (.scalar '<' :: inner ++ [CodePoint.scalar '>']) ++ mark) =
      (front ++ (.scalar '<' :: inner ++ [CodePoint.scalar '>']), nullable) := by
  have hlast : (front ++ (.scalar '<' :: inner ++ [CodePoint.scalar '>'])).getLast? = some (CodePoint.scalar '>') := by
    rw [← List.append_assoc, List.getLast?_concat]
  refine splitMark_of_marked (fun c hc => ?_) (fun _ => ?_) hmark
  · rw [hlast] at hc
    cases hc
    decide
  · rw [hlast]
    decide

/-- A text with a bracket that ends in one falls into what stands in front of the first bracket and
what stands between that and the last one. -/
theorem exists_of_brackets (hopen : .scalar '<' ∈ body) (hlast : body.getLast? = some (CodePoint.scalar '>')) :
    ∃ front inner, body = front ++ (.scalar '<' :: inner ++ [CodePoint.scalar '>']) ∧ .scalar '<' ∉ front := by
  obtain ⟨front, rest, rfl, hfront⟩ := List.eq_append_cons_of_mem hopen
  rcases List.eq_nil_or_concat' rest with rfl | ⟨inner, c, rfl⟩
  · rw [List.getLast?_concat] at hlast
    cases hlast
  · rw [← List.cons_append, ← List.append_assoc, List.getLast?_concat] at hlast
    cases hlast
    exact ⟨front, inner, rfl, hfront⟩

/-- An accepted text is a name, or a name with type arguments between brackets; and it may have the
mark for null. -/
theorem ofChars_cases (h : ofChars s = .ok t) :
    (∃ body nullable, splitMark s = (body, nullable) ∧ (∀ c ∈ body, c ≠ '<' ∧ c ≠ '>' ∧ c ≠ ',') ∧
      t = ⟨Text.ofList body, nullable, []⟩) ∨
    ∃ front inner nullable parts arguments,
      splitMark s = (front ++ (.scalar '<' :: inner ++ [CodePoint.scalar '>']), nullable) ∧ .scalar '<' ∉ front ∧
        splitArguments inner = .ok parts ∧
        parts.mapM (fun part => ofChars (trim part)) = .ok arguments ∧
        t = ⟨Text.ofList (trim front), nullable, arguments⟩ := by
  obtain ⟨body, nullable, hmark⟩ : ∃ body nullable, splitMark s = (body, nullable) := ⟨_, _, rfl⟩
  rw [ofChars, hmark] at h
  simp only at h
  split at h
  · rename_i hopen
    split at h
    · rename_i hlast
      obtain ⟨front, inner, rfl, hfront⟩ := exists_of_brackets hopen hlast
      rw [takeWhile_of_not_mem hfront] at h
      split at h
      · cases h
      · rename_i parts hsplit
        rw [between_of_not_mem hfront] at hsplit
        obtain ⟨arguments, harguments, h⟩ := bind_eq_ok_iff.1 h
        cases h
        exact .inr ⟨front, inner, nullable, parts, arguments, hmark, hfront, hsplit,
          by simpa using harguments, rfl⟩
    · cases h
  · rename_i hopen
    split at h
    · cases h
    · rename_i hmarks
      cases h
      refine .inl ⟨body, nullable, hmark, fun c hc => ⟨?_, ?_, ?_⟩, rfl⟩
      · rintro rfl
        exact hopen hc
      · rintro rfl
        exact hmarks (.inl hc)
      · rintro rfl
        exact hmarks (.inr hc)

theorem Marked.unmarked {mark : List CodePoint} (h : Marked nullable mark) :
    ∀ c ∈ mark, c ≠ '<' ∧ c ≠ '>' ∧ c ≠ ',' := by
  cases h with
  | absent => simp
  | present hblanks =>
    intro c hc
    rcases List.mem_append.1 hc with hc | hc
    · exact unmarked_of_blanks hblanks c hc
    · rw [List.mem_singleton.1 hc]
      decide

/-- Around what is left of a text without its blanks and its mark for null, no bracket and no comma
stands. -/
theorem exists_margins (hmark : splitMark (trim s) = (body, nullable)) :
    ∃ before after, s = before ++ body ++ after ∧
      (∀ c ∈ before, c ≠ '<' ∧ c ≠ '>' ∧ c ≠ ',') ∧ ∀ c ∈ after, c ≠ '<' ∧ c ≠ '>' ∧ c ≠ ',' := by
  obtain ⟨before, blanks, hs, hbefore, hblanks⟩ := exists_blanks_around s
  obtain ⟨mark, htrim, hmarked⟩ := exists_of_splitMark hmark
  refine ⟨before, mark ++ blanks, by rw [hs, htrim]; simp, unmarked_of_blanks hbefore, ?_⟩
  intro c hc
  rcases List.mem_append.1 hc with hc | hc
  · exact hmarked.unmarked c hc
  · exact unmarked_of_blanks hblanks c hc

theorem takeWhile_bracket (hfront : .scalar '<' ∉ front) :
    (front ++ .scalar '<' :: r).takeWhile (· != CodePoint.scalar '<') = front := by
  have hall : ∀ c ∈ front, (c != CodePoint.scalar '<') = true := fun c hc => by
    simpa using fun h : c = '<' => hfront (h ▸ hc)
  rw [List.takeWhile_append_of_pos hall, List.takeWhile_cons_of_neg (by decide), List.append_nil]

theorem dropWhile_bracket (hfront : .scalar '<' ∉ front) :
    (front ++ .scalar '<' :: r).dropWhile (· != CodePoint.scalar '<') = .scalar '<' :: r := by
  have hall : ∀ c ∈ front, (c != CodePoint.scalar '<') = true := fun c hc => by
    simpa using fun h : c = '<' => hfront (h ▸ hc)
  rw [List.dropWhile_append_of_pos hall, List.dropWhile_cons_of_neg (by decide)]

/-! ### Names -/

/-- All names in a reference, at every depth, have a property. -/
inductive EveryName (P : Text → Prop) : TypeRef → Prop
  | mk {name : Text} {nullable : Bool} {arguments : List TypeRef} (hname : P name)
      (harguments : ∀ a ∈ arguments, EveryName P a) : EveryName P ⟨name, nullable, arguments⟩

/-- A name has no brackets and no commas. -/
def Unmarked (name : Text) : Prop := ∀ c ∈ name.toList, c ≠ '<' ∧ c ≠ '>' ∧ c ≠ ','

instance (name : Text) : Decidable (Unmarked name) :=
  List.decidableBAll (fun c : CodePoint => c ≠ '<' ∧ c ≠ '>' ∧ c ≠ ',') name.toList

/-- A name without brackets and commas denotes the reference of that name. -/
theorem ofChars_of_name {name : Text} (hmark : splitMark s = (name.toList, nullable))
    (hname : Unmarked name) : ofChars s = .ok ⟨name, nullable, []⟩ := by
  rw [ofChars_of_unbracketed hmark hname, Text.ofList_toList]

theorem everyName_iff : t.EveryName P ↔ P t.name ∧ ∀ a ∈ t.arguments, a.EveryName P := by
  cases t with
  | mk name nullable arguments =>
    constructor
    · rintro ⟨hname, harguments⟩
      exact ⟨hname, harguments⟩
    · rintro ⟨hname, harguments⟩
      exact .mk hname harguments

/-- Up to its first bracket, a text in which every mark is in its place has none. -/
theorem Nested.unmarked_of_not_mem (h : Enclosed 0 (front ++ r)) (hfront : .scalar '<' ∉ front) :
    ∀ c ∈ front, c ≠ '<' ∧ c ≠ '>' ∧ c ≠ ',' := by
  intro c hc
  have hmark : c ∉ [CodePoint.scalar '>', .scalar ','] := by
    intro hmark
    obtain ⟨p, q, rfl⟩ := List.append_of_mem hc
    have hinside := h.inside c hmark p ⟨q ++ r, by simp⟩
    have hnone : p.count (.scalar '<') = 0 :=
      List.count_eq_zero.2 fun hp => hfront (List.mem_append_left _ hp)
    omega
  refine ⟨?_, by simpa using hmark⟩
  rintro rfl
  exact hfront hc

theorem Nested.trim (h : Enclosed 0 s) : Enclosed 0 (trim s) := by
  obtain ⟨before, after, hs, hbefore, hafter⟩ := exists_blanks_around s
  rwa [hs, enclosed_margins_iff (unmarked_of_blanks hbefore) (unmarked_of_blanks hafter)] at h

theorem mem_of_mem_trim {c : CodePoint} (hc : c ∈ trim s) : c ∈ s := by
  obtain ⟨before, after, hs, -, -⟩ := exists_blanks_around s
  rw [hs]
  simp [hc]

/-- Where every mark of a text is in its place, no name has one. -/
theorem everyName_of_enclosed (hs : Enclosed 0 s) (h : ofChars s = .ok t) :
    t.EveryName Unmarked := by
  induction t generalizing s with
  | mk name nullable arguments ih =>
    rcases ofChars_cases h with ⟨body, _, -, hbody, heq⟩ |
        ⟨front, inner, _, parts, _, hmark, hfront, hsplit, harguments, heq⟩
    · cases heq
      exact .mk (by simpa [Unmarked] using hbody) (by simp)
    · cases heq
      obtain ⟨mark, rfl, -⟩ := exists_of_splitMark hmark
      rw [List.append_assoc] at hs
      have hname := hs.unmarked_of_not_mem hfront
      refine .mk ?_ fun a ha => ?_
      · rw [Unmarked, Text.toList_ofList]
        exact fun c hc => hname c (mem_of_mem_trim hc)
      · obtain ⟨part, hpart, hread⟩ := exists_of_mem_mapM harguments ha
        exact ih a ha ((enclosed_of_splitArguments hsplit).2 part hpart).trim hread

/-- The type arguments of an accepted text are cut where every mark is in its place. -/
theorem everyName_of_arguments (hsplit : splitArguments inner = .ok parts)
    (harguments : parts.mapM (fun part => ofChars (trim part)) = .ok arguments) :
    ∀ a ∈ arguments, a.EveryName Unmarked := by
  intro a ha
  obtain ⟨part, hpart, hread⟩ := exists_of_mem_mapM harguments ha
  exact everyName_of_enclosed ((enclosed_of_splitArguments hsplit).2 part hpart).trim hread

/-- **What is found out of place in a text.** If a text is accepted, then every closing bracket and
every comma from its first opening bracket on stands inside of brackets that match; a text without an
opening bracket has none of them; and no name of a type argument, at any depth, has a bracket or a
comma in it. But in front of the first opening bracket, where there is one, nothing is looked for: the
names have no brackets and commas exactly if none stand there. -/
theorem names_of_ofValue {s : Text} (h : ofValue (.str s) = .ok t) :
    Enclosed 0 (s.toList.dropWhile (· != CodePoint.scalar '<')) ∧
    (.scalar '<' ∉ s.toList → .scalar '>' ∉ s.toList ∧ .scalar ',' ∉ s.toList) ∧
    .scalar '<' ∉ t.name.toList ∧ (∀ a ∈ t.arguments, a.EveryName Unmarked) ∧
    (t.EveryName Unmarked ↔ ∀ c ∈ s.toList.takeWhile (· != CodePoint.scalar '<'), c ≠ '>' ∧ c ≠ ',') := by
  rw [ofValue, ofText] at h
  rcases ofChars_cases h with ⟨body, _, hmark, hbody, rfl⟩ |
      ⟨front, inner, _, parts, arguments, hmark, hfront, hsplit, harguments, rfl⟩
  · obtain ⟨before, after, hs, hbefore, hafter⟩ := exists_margins hmark
    have hall : ∀ c ∈ s.toList, c ≠ '<' ∧ c ≠ '>' ∧ c ≠ ',' := by
      rw [hs]
      intro c hc
      rcases List.mem_append.1 hc with hc | hc
      · exact (List.mem_append.1 hc).elim (hbefore c) (hbody c)
      · exact hafter c hc
    have hnone : s.toList.dropWhile (· != CodePoint.scalar '<') = [] :=
      List.dropWhile_eq_nil_iff.2 fun c hc => by simpa using (hall c hc).1
    refine ⟨hnone ▸ nested_nil_iff.2 rfl, fun _ => ⟨fun hc => (hall _ hc).2.1 rfl,
      fun hc => (hall _ hc).2.2 rfl⟩, ?_, by simp, ?_⟩
    · rw [Text.toList_ofList]
      exact fun hc => (hbody _ hc).1 rfl
    · exact iff_of_true (.mk (by simpa [Unmarked] using hbody) (by simp)) fun c hc =>
        (hall c (List.takeWhile_subset _ hc)).2
  · obtain ⟨before, after, hs, hbefore, hafter⟩ := exists_margins hmark
    have hsplitText : s.toList = (before ++ front) ++ .scalar '<' :: (inner ++ [CodePoint.scalar '>'] ++ after) := by
      rw [hs]
      simp
    have hopen : .scalar '<' ∉ before ++ front := by
      rw [List.mem_append]
      exact fun hc => hc.elim (fun hc => (hbefore _ hc).1 rfl) hfront
    have hname : ∀ c ∈ trim front, c ∈ front := fun c hc => mem_of_mem_trim hc
    rw [hsplitText, dropWhile_bracket hopen, takeWhile_bracket hopen]
    refine ⟨?_, fun hnone => absurd (by simp) hnone, ?_, everyName_of_arguments hsplit harguments, ?_⟩
    · show Enclosed 0 ([] ++ (.scalar '<' :: inner ++ [CodePoint.scalar '>']) ++ after)
      rw [enclosed_margins_iff (by simp) hafter]
      exact (enclosed_of_splitArguments hsplit).1.enclosed
    · rw [Text.toList_ofList]
      exact fun hc => hfront (hname _ hc)
    · rw [everyName_iff, and_iff_left (everyName_of_arguments hsplit harguments), Unmarked,
        Text.toList_ofList]
      constructor
      · intro htrim c hc
        obtain ⟨left, right, hsides, hleft, hright⟩ := exists_blanks_around front
        rcases List.mem_append.1 hc with hc | hc
        · exact (hbefore c hc).2
        · rw [hsides] at hc
          rcases List.mem_append.1 hc with hc | hc
          · exact (List.mem_append.1 hc).elim (fun hc => (unmarked_of_blanks hleft c hc).2)
              fun hc => (htrim c hc).2
          · exact (unmarked_of_blanks hright c hc).2
      · intro hmarks c hc
        refine ⟨?_, hmarks c (List.mem_append_right _ (hname c hc))⟩
        rintro rfl
        exact hfront (hname _ hc)

/-- A text with blanks around its parts. -/
theorem names_of_spacedMap :
    ofValue (.str " Map <a b ?, List<C> > ?") =
      .ok ⟨"Map", true, [⟨"a b", true, []⟩, ⟨"List", false, [⟨"C", false, []⟩]⟩]⟩ ∧
    EveryName Unmarked ⟨"Map", true, [⟨"a b", true, []⟩, ⟨"List", false, [⟨"C", false, []⟩]⟩]⟩ := by
  have hletter : ofChars (trim (Text.toList "C")) = .ok ⟨"C", false, []⟩ :=
    ofChars_of_name (by decide) (by decide)
  have hfirst : ofChars (trim (Text.toList "a b ?")) = .ok ⟨"a b", true, []⟩ :=
    ofChars_of_name (by decide) (by decide)
  have hsecond : ofChars (trim (Text.toList " List<C> ")) = .ok ⟨"List", false, [⟨"C", false, []⟩]⟩ := by
    have hmark : splitMark (trim (Text.toList " List<C> ")) =
        (Text.toList "List" ++ (.scalar '<' :: Text.toList "C" ++ [CodePoint.scalar '>']), false) := by decide
    exact ofChars_of_bracketed hmark (by decide) rfl (mapM_eq_ok_iff.2 (.cons hletter .nil))
  have hread : ofValue (.str " Map <a b ?, List<C> > ?") =
      .ok ⟨"Map", true, [⟨"a b", true, []⟩, ⟨"List", false, [⟨"C", false, []⟩]⟩]⟩ := by
    have hmark : splitMark (trim (Text.toList " Map <a b ?, List<C> > ?")) =
        (Text.toList "Map " ++ (.scalar '<' :: Text.toList "a b ?, List<C> " ++ [CodePoint.scalar '>']), true) := by decide
    rw [ofValue, ofText]
    exact ofChars_of_bracketed hmark (by decide) rfl
      (mapM_eq_ok_iff.2 (.cons hfirst (.cons hsecond .nil)))
  have hfront : (Text.toList " Map <a b ?, List<C> > ?").takeWhile (· ≠ CodePoint.scalar '<') = Text.toList " Map " := by decide
  have hmarks : Unmarked " Map " := by decide
  obtain ⟨-, -, -, -, hnames⟩ := names_of_ofValue hread
  exact ⟨hread, hnames.2 fun c hc => (hmarks c (hfront ▸ hc)).2⟩

/-- A closing bracket in front of the first opening one becomes part of the name. -/
theorem names_of_marked : ofValue (.str "a>b<c>") = .ok ⟨"a>b", false, [⟨"c", false, []⟩]⟩ ∧
    ¬ EveryName Unmarked ⟨"a>b", false, [⟨"c", false, []⟩]⟩ := by
  refine ⟨?_, fun h => ?_⟩
  · have hmark : splitMark (trim (Text.toList "a>b<c>")) =
        (Text.toList "a>b" ++ (.scalar '<' :: Text.toList "c" ++ [CodePoint.scalar '>']), false) := by decide
    have hinner : ofChars (trim (Text.toList "c")) = .ok ⟨"c", false, []⟩ :=
      ofChars_of_name (by decide) (by decide)
    rw [ofValue, ofText]
    exact ofChars_of_bracketed hmark (by decide) rfl (mapM_eq_ok_iff.2 (.cons hinner .nil))
  · exact ((everyName_iff.1 h).1 '>' (by decide)).2.1 rfl

end KotlinPreferences.TypeRef
