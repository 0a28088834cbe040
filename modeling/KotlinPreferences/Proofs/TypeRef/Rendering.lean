import KotlinPreferences.Proofs.TypeRef.Names

/-!
# The text of a reference that was read

A text denotes many references that are not plain: a name may be empty, have blanks and marks for null
in it, and in front of the first bracket even commas and closing brackets. Yet each of them is denoted
by its own text, so that text is a normal form of all the texts that denote it.

* `Readable`: the references that texts denote, told without a text;
* `readable_of_ofChars`: what a text denotes is one of them;
* `exists_parts`: the pieces between the brackets in the text of a reference;
* `Readable.trimmed_chars`, `neutral_chars`: that text is neither trimmed nor cut;
* `ofChars_chars`, `ofValue_render`: it denotes the reference;
* `render_of_ofValue`: it is a normal form.
-/

namespace KotlinPreferences

namespace TypeRef

open Text (isBlankText trim Trimmed)

variable {t : TypeRef} {nullable : Bool} {arguments : List TypeRef} {s body inner : List CodePoint}
  {parts : List (List CodePoint)}

/-! ### What texts denote -/

/-- A reference that some text denotes. -/
inductive Readable : TypeRef → Prop
  /-- A name alone. If it ends in a mark for null, then another one was taken away from it. -/
  | name {name : Text} {nullable : Bool} (htrimmed : Trimmed name.toList) (hmarks : Unmarked name)
      (hlast : nullable = false → name.toList.getLast? ≠ some (CodePoint.scalar '?')) : Readable ⟨name, nullable, []⟩
  /-- A name with type arguments. None of them is the reference of the empty text. -/
  | bracketed {name : Text} {nullable : Bool} {arguments : List TypeRef}
      (htrimmed : Trimmed name.toList) (hopen : .scalar '<' ∉ name.toList) (hne : arguments ≠ [])
      (hnames : ∀ a ∈ arguments, a.EveryName Unmarked) (hwritten : ∀ a ∈ arguments, a.chars ≠ [])
      (harguments : ∀ a ∈ arguments, Readable a) : Readable ⟨name, nullable, arguments⟩

theorem getLast?_of_splitMark (h : splitMark s = (body, false)) : body.getLast? ≠ some (CodePoint.scalar '?') := by
  unfold splitMark at h
  split at h
  · cases h
  · cases h
    assumption

/-- A text is cut into one piece or more, and none of them is blank. -/
theorem not_blank_of_splitArguments (h : splitArguments s = .ok parts) :
    parts ≠ [] ∧ ∀ p ∈ parts, isBlankText p = false := by
  unfold splitArguments at h
  split at h
  · cases h
  · rename_i ps hps
    split at h
    · cases h
    · rename_i hblank
      cases h
      obtain ⟨-, first, rest, rfl, -⟩ := nested_of_pieces hps
      exact ⟨List.cons_ne_nil first rest, by simpa using hblank⟩

theorem chars_ne_nil_of_arguments {name : Text} (hne : arguments ≠ []) :
    chars ⟨name, nullable, arguments⟩ ≠ [] := by
  cases arguments with
  | nil => exact absurd rfl hne
  | cons a rest => simp [chars, argumentChars]

/-- Only the empty text denotes the reference of which the text is empty. -/
theorem chars_ne_nil (hs : s ≠ []) (h : ofChars s = .ok t) : t.chars ≠ [] := by
  rcases ofChars_cases h with ⟨body, nullable, hmark, -, rfl⟩ |
      ⟨_, _, nullable, parts, arguments, -, -, hsplit, harguments, rfl⟩
  · obtain ⟨mark, rfl, hmarked⟩ := exists_of_splitMark hmark
    intro hnil
    cases hmarked with
    | absent => exact hs (by simpa [chars, argumentChars] using hnil)
    | present _ => simp [chars] at hnil
  · refine chars_ne_nil_of_arguments ?_
    rintro rfl
    have hlength := (mapM_eq_ok_iff.1 harguments).length_eq
    exact (not_blank_of_splitArguments hsplit).1 (List.length_eq_zero_iff.1 hlength)

/-- What a text denotes is one of these references. -/
theorem readable_of_ofChars (hs : Trimmed s) (h : ofChars s = .ok t) : t.Readable := by
  induction t generalizing s with
  | mk name nullable arguments ih =>
    rcases ofChars_cases h with ⟨body, _, hmark, hbody, heq⟩ |
        ⟨front, inner, _, parts, _, hmark, hfront, hsplit, harguments, heq⟩
    · cases heq
      have htrimmed := trimmed_splitMark hs
      rw [hmark] at htrimmed
      refine .name (by rwa [Text.toList_ofList]) (by simpa [Unmarked] using hbody) ?_
      rintro rfl
      rw [Text.toList_ofList]
      exact getLast?_of_splitMark hmark
    · cases heq
      obtain ⟨hne, hblank⟩ := not_blank_of_splitArguments hsplit
      refine .bracketed ?_ ?_ ?_ (everyName_of_arguments hsplit harguments) ?_ ?_
      · rw [Text.toList_ofList]
        exact Text.trimmed_trim front
      · rw [Text.toList_ofList]
        exact fun hopen => hfront (mem_of_mem_trim hopen)
      · rintro rfl
        have hlength := (mapM_eq_ok_iff.1 harguments).length_eq
        exact hne (List.length_eq_zero_iff.1 hlength)
      · intro a ha
        obtain ⟨part, hpart, hread⟩ := exists_of_mem_mapM harguments ha
        exact chars_ne_nil (Text.trim_ne_nil (hblank part hpart)) hread
      · intro a ha
        obtain ⟨part, -, hread⟩ := exists_of_mem_mapM harguments ha
        exact ih a ha (Text.trimmed_trim part) hread

/-! ### The text of a reference -/

theorem marked_chars : Marked nullable (if nullable then [CodePoint.scalar '?'] else []) := by
  cases nullable with
  | false => exact .absent
  | true =>
    have hnone : isBlankText [] = true := rfl
    exact .present hnone

theorem intercalate_furtherChars (s : List CodePoint) (arguments : List TypeRef) :
    List.intercalate [CodePoint.scalar ','] (s :: arguments.map fun a => .scalar ' ' :: a.chars) =
      s ++ furtherChars arguments := by
  induction arguments generalizing s with
  | nil => simp [List.intercalate, furtherChars]
  | cons a rest ih =>
    rw [List.map_cons, List.intercalate_cons_cons, ih, furtherChars]
    simp

/-- Between the brackets the texts of the arguments stand, with blanks in front of them. -/
theorem exists_parts (hne : arguments ≠ []) :
    ∃ parts, argumentChars arguments = .scalar '<' :: List.intercalate [CodePoint.scalar ','] parts ++ [CodePoint.scalar '>'] ∧
      List.Forall₂ (fun a p => ∃ blanks, isBlankText blanks = true ∧ p = blanks ++ a.chars)
        arguments parts := by
  cases arguments with
  | nil => exact absurd rfl hne
  | cons a rest =>
    refine ⟨a.chars :: rest.map fun b => .scalar ' ' :: b.chars, ?_, .cons ⟨[], rfl, rfl⟩ ?_⟩
    · rw [argumentChars, intercalate_furtherChars]
      rfl
    · refine List.forall₂_map_right_iff.2 (List.forall₂_same.2 fun b _ => ⟨[CodePoint.scalar ' '], ?_, rfl⟩)
      decide

/-- No comma cuts the text of a reference, if its names have no brackets and commas. -/
theorem neutral_chars (h : t.EveryName Unmarked) : Neutral 0 t.chars := by
  induction t with
  | mk name nullable arguments ih =>
    obtain ⟨hname, hnames⟩ := everyName_iff.1 h
    have harguments : Neutral 0 (argumentChars arguments) := by
      rcases eq_or_ne arguments [] with rfl | hne
      · exact .nil
      · obtain ⟨parts, hchars, hparts⟩ := exists_parts hne
        rw [hchars]
        refine (neutral_intercalate fun p hp => ?_).bracketed
        obtain ⟨a, ha, blanks, hblanks, rfl⟩ := exists_of_mem_forall₂ hparts hp
        exact (neutral_of_blanks hblanks).append (ih a ha (hnames a ha))
    exact ((neutral_of_forall hname).append harguments).append marked_chars.neutral

theorem trimmed_mark : Trimmed (if nullable then [CodePoint.scalar '?'] else []) := by
  cases nullable with
  | false => exact ⟨by simp, by simp⟩
  | true => exact ⟨by simp; decide, by simp; decide⟩

theorem trimmed_brackets : Trimmed (.scalar '<' :: inner ++ [CodePoint.scalar '>']) where
  head c hc := by
    cases hc
    decide
  last c hc := by
    rw [List.getLast?_concat] at hc
    cases hc
    decide

/-- No blanks stand around the text of a reference that a text denotes. -/
theorem Readable.trimmed_chars (h : t.Readable) : Trimmed t.chars := by
  cases h with
  | name htrimmed _ _ =>
    rw [chars, argumentChars, List.append_nil]
    exact htrimmed.append trimmed_mark
  | bracketed htrimmed _ hne _ _ _ =>
    obtain ⟨parts, hchars, -⟩ := exists_parts hne
    rw [chars, hchars]
    exact (htrimmed.append trimmed_brackets).append trimmed_mark

/-- **The text of a reference denotes the reference,** if any text does. -/
theorem ofChars_chars (h : t.Readable) : ofChars t.chars = .ok t := by
  induction h with
  | @name name nullable htrimmed hmarks hlast =>
    rw [chars, argumentChars, List.append_nil]
    exact ofChars_of_name (splitMark_of_marked htrimmed.last hlast marked_chars) hmarks
  | @bracketed name nullable arguments htrimmed hopen hne hnames hwritten harguments ih =>
    obtain ⟨parts, hchars, hparts⟩ := exists_parts hne
    have hsome : parts ≠ [] := by
      rintro rfl
      cases hparts
      exact hne rfl
    have hpieces : ∀ p ∈ parts, Neutral 0 p ∧ isBlankText p = false := by
      intro p hp
      obtain ⟨a, ha, blanks, hblanks, rfl⟩ := exists_of_mem_forall₂ hparts hp
      have hblank := (harguments a ha).trimmed_chars.isBlankText_eq_false (hwritten a ha)
      refine ⟨(neutral_of_blanks hblanks).append (neutral_chars (hnames a ha)), ?_⟩
      rw [isBlankText] at hblank ⊢
      rw [List.all_append, hblank, Bool.and_false]
    have hread : parts.mapM (fun part => ofChars (trim part)) = .ok arguments := by
      refine mapM_of_forall₂ hparts ?_
      rintro a ha _ ⟨blanks, hblanks, rfl⟩
      have htrim : trim (blanks ++ a.chars ++ []) = a.chars :=
        Text.trim_of_blanks_around (harguments a ha).trimmed_chars hblanks rfl
      rw [List.append_nil] at htrim
      rw [htrim, ih a ha]
    have hmark : splitMark (name.toList ++ (.scalar '<' :: List.intercalate [CodePoint.scalar ','] parts ++ [CodePoint.scalar '>']) ++
        if nullable then [CodePoint.scalar '?'] else []) =
          (name.toList ++ (.scalar '<' :: List.intercalate [CodePoint.scalar ','] parts ++ [CodePoint.scalar '>']), nullable) :=
      splitMark_of_bracketed _ _ marked_chars
    rw [chars, hchars, ofChars_of_bracketed hmark hopen (splitArguments_intercalate hsome hpieces)
      hread, Text.trim_of_trimmed htrimmed, Text.ofList_toList]

theorem readable_of_ofValue {s : Text} (h : ofValue (.str s) = .ok t) : t.Readable := by
  rw [ofValue, ofText] at h
  exact readable_of_ofChars (Text.trimmed_trim _) h

theorem ofValue_render (h : t.Readable) : ofValue (.str t.render) = .ok t := by
  rw [ofValue, ofText, render, Text.toList_ofList, Text.trim_of_trimmed h.trimmed_chars,
    ofChars_chars h]

/-- **The text of a reference that was read is a normal form.** If a text is accepted, whatever stands
in it, then the text of the reference that it denotes is accepted as well and denotes the same
reference; and two accepted texts denote the same reference exactly if the texts of their references
are equal. -/
theorem render_of_ofValue {s₁ s₂ : Text} {t₁ t₂ : TypeRef} (h₁ : ofValue (.str s₁) = .ok t₁)
    (h₂ : ofValue (.str s₂) = .ok t₂) :
    ofValue (.str t₁.render) = .ok t₁ ∧ (t₁ = t₂ ↔ t₁.render = t₂.render) := by
  have hread₁ := ofValue_render (readable_of_ofValue h₁)
  have hread₂ := ofValue_render (readable_of_ofValue h₂)
  refine ⟨hread₁, congrArg render, fun hrender => ?_⟩
  rw [hrender, hread₂] at hread₁
  exact (Except.ok.inj hread₁).symm

end TypeRef

namespace Sample

/-- A reference with marks and blanks in its names, and with names that are empty. -/
def oddType : TypeRef :=
  ⟨"a>b , ??", true, [⟨"x ?", true, []⟩, ⟨"", true, [⟨"y", false, []⟩]⟩, ⟨"", true, []⟩]⟩

end Sample

namespace TypeRef

open Text (trim)

/-- One of its texts is normalised. -/
theorem render_of_oddType :
    ofValue (.str "a>b , ?? <x ? ? , <y>? ,?> ? ") = .ok Sample.oddType ∧
    ofValue (.str "?") = .ok ⟨"", true, []⟩ ∧
    Sample.oddType.render = "a>b , ??<x ??, <y>?, ?>?" ∧
    ofValue (.str "a>b , ??<x ??, <y>?, ?>?") = .ok Sample.oddType ∧
    (Sample.oddType = ⟨"", true, []⟩ ↔ ("a>b , ??<x ??, <y>?, ?>?" : Text) = "?") := by
  have hnothing : ofChars (trim (Text.toList "?")) = .ok ⟨"", true, []⟩ :=
    ofChars_of_name (by decide) (by decide)
  have hletter : ofChars (trim (Text.toList "y")) = .ok ⟨"y", false, []⟩ :=
    ofChars_of_name (by decide) (by decide)
  have hmarks : ofChars (trim (Text.toList "x ? ? ")) = .ok ⟨"x ?", true, []⟩ :=
    ofChars_of_name (by decide) (by decide)
  have hunnamed : ofChars (trim (Text.toList " <y>? ")) = .ok ⟨"", true, [⟨"y", false, []⟩]⟩ := by
    have hmark : splitMark (trim (Text.toList " <y>? ")) =
        (Text.toList "" ++ (.scalar '<' :: Text.toList "y" ++ [CodePoint.scalar '>']), true) := by decide
    exact ofChars_of_bracketed hmark (by decide) rfl (mapM_eq_ok_iff.2 (.cons hletter .nil))
  have hodd : ofValue (.str "a>b , ?? <x ? ? , <y>? ,?> ? ") = .ok Sample.oddType := by
    have hmark : splitMark (trim (Text.toList "a>b , ?? <x ? ? , <y>? ,?> ? ")) =
        (Text.toList "a>b , ?? " ++ (.scalar '<' :: Text.toList "x ? ? , <y>? ,?" ++ [CodePoint.scalar '>']), true) := by decide
    rw [ofValue, ofText]
    exact ofChars_of_bracketed hmark (by decide) rfl
      (mapM_eq_ok_iff.2 (.cons hmarks (.cons hunnamed (.cons hnothing .nil))))
  have hempty : ofValue (.str "?") = .ok ⟨"", true, []⟩ := by
    rw [ofValue, ofText, hnothing]
  have hrender : Sample.oddType.render = "a>b , ??<x ??, <y>?, ?>?" := by decide
  have hmarkRender : render ⟨"", true, []⟩ = "?" := by decide
  obtain ⟨hnormal, hequal⟩ := render_of_ofValue hodd hempty
  rw [hrender] at hnormal
  rw [hrender, hmarkRender] at hequal
  exact ⟨hodd, hempty, hrender, hnormal, hequal⟩

end TypeRef

end KotlinPreferences
