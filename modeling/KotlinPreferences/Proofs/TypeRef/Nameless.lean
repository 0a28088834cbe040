import KotlinPreferences.Proofs.TypeRef.Names
import KotlinPreferences.Proofs.TypeRef.Splitting
import Mathlib.Logic.Relation

/-!
# References without a name

A value may stand for a reference with an empty name: null does, and so does a text with nothing in
front of its first bracket or of its mark for null. Such values are accepted wherever a type argument
may stand. Here the empty names in a reference are found in the value from which it was read.

* `ofValue_cases`: the values that are accepted;
* `Nameless`, `name_eq_empty_iff`: the values that stand for a reference with an empty name;
* `HasArgument`: a value has another as a type argument;
* `exists_argument`, `exists_hasArgument`: these are the arguments of the reference;
* `everyName_ne_empty_iff`: when a reference has no empty name at any depth.
-/

namespace KotlinPreferences.TypeRef

open Text (isBlank isBlankText trim)
open Relation (ReflTransGen)

variable {t u : TypeRef} {v a : Value} {nullable : Bool} {arguments : List TypeRef}
  {s front inner mark : List CodePoint} {members : Value.Members}

/-! ### The values that are accepted -/

theorem argumentsOf_cases (h : argumentsOf members = .ok arguments) :
    (∃ items, Value.member? members "arguments" = some (.arr items) ∧
      items.mapM ofValue = .ok arguments) ∨
    (∀ items, Value.member? members "arguments" ≠ some (.arr items)) ∧ arguments = [] := by
  unfold argumentsOf at h
  split at h
  · rename_i items hitems
    exact .inl ⟨items, hitems, h⟩
  · rename_i w hnot hw
    split_ifs at h
    cases h
    refine .inr ⟨fun items hitems => ?_, rfl⟩
    rw [hw, Option.some.injEq] at hitems
    exact hnot items hitems
  · rename_i hnone
    cases h
    exact .inr ⟨fun items => by simp [hnone], rfl⟩

/-- What is accepted is null, an accepted text, or an object with a name whose arguments are
accepted. -/
theorem ofValue_cases (h : ofValue v = .ok t) :
    v = .null ∧ t = ⟨"", false, []⟩ ∨
    (∃ s : Text, v = .str s ∧ ofChars (trim s.toList) = .ok t) ∨
    ∃ (members : Value.Members) (written : Text) (arguments : List TypeRef), v = .obj members ∧
      nameMember members = .str written ∧ argumentsOf members = .ok arguments ∧
      t = ⟨Text.ofList (trim written.toList), (Value.member members "nullable").truthy,
        arguments⟩ := by
  cases v with
  | null =>
    rw [ofValue] at h
    cases h
    exact .inl ⟨rfl, rfl⟩
  | str s =>
    rw [ofValue, ofText] at h
    exact .inr (.inl ⟨s, rfl, h⟩)
  | obj members =>
    cases hname : nameMember members with
    | str written =>
      rw [ofValue_obj hname, bind_eq_ok_iff] at h
      obtain ⟨arguments, harguments, h⟩ := h
      cases h
      exact .inr (.inr ⟨members, written, arguments, rfl, hname, harguments, rfl⟩)
    | _ =>
      rw [ofValue] at h
      simp only [hname] at h
      cases h
  | _ =>
    rw [ofValue] at h
    · cases h
    all_goals simp

/-! ### Empty names -/

/-- A value stands for a reference without a name: null; a text in which, but for the blanks around
it, nothing stands or only a mark for null, or which begins with a bracket; an object of which the
name is blank. -/
inductive Nameless : Value → Prop
  | null : Nameless .null
  | blank {s : Text} (h : trim s.toList = []) : Nameless (.str s)
  | mark {s : Text} (h : trim s.toList = [CodePoint.scalar '?']) : Nameless (.str s)
  | bracket {s : Text} (h : (trim s.toList).head? = some (CodePoint.scalar '<')) : Nameless (.str s)
  | object {members : Value.Members} {written : Text} (hname : nameMember members = .str written)
      (h : trim written.toList = []) : Nameless (.obj members)

/-- Nothing but a mark for null stands in a text of which nothing is left without it. -/
theorem splitMark_nil_cases (hs : Text.Trimmed s) (h : splitMark s = ([], nullable)) :
    s = [] ∨ s = [CodePoint.scalar '?'] := by
  obtain ⟨mark, rfl, hmark⟩ := exists_of_splitMark h
  cases hmark with
  | absent => exact .inl rfl
  | @present blanks hblanks =>
    refine .inr ?_
    cases blanks with
    | nil => rfl
    | cons c rest =>
      -- the first blank would stand at the beginning of the text
      have hblank : isBlank c = true := List.all_eq_true.1 hblanks c List.mem_cons_self
      have hhead : isBlank c = false := hs.head c rfl
      rw [hblank] at hhead
      cases hhead

/-- In front of the first bracket only blanks stand exactly if the text begins with it. -/
theorem trim_front_eq_nil_iff (hs : Text.Trimmed (front ++ .scalar '<' :: inner)) (hfront : .scalar '<' ∉ front) :
    trim front = [] ↔ (front ++ .scalar '<' :: inner).head? = some (CodePoint.scalar '<') := by
  cases front with
  | nil => simp [trim, Text.trimEnd]
  | cons c rest =>
    have hc : isBlank c = false := hs.head c rfl
    refine iff_of_false (Text.trim_ne_nil (by simp [isBlankText, hc])) ?_
    rw [List.cons_append, List.head?_cons, Option.some.injEq]
    rintro rfl
    exact hfront List.mem_cons_self

/-- The name is empty of a text in which nothing stands in front of the mark for null or of the first
bracket. -/
theorem ofChars_name_eq_empty_iff (hs : Text.Trimmed s) (h : ofChars s = .ok t) :
    t.name = "" ↔ s = [] ∨ s = [CodePoint.scalar '?'] ∨ s.head? = some (CodePoint.scalar '<') := by
  rcases ofChars_cases h with ⟨body, nullable, hmark, hbody, rfl⟩ |
      ⟨front, inner, nullable, parts, arguments, hmark, hfront, -, -, rfl⟩
  · rw [Text.ofList_eq_empty_iff]
    constructor
    · rintro rfl
      exact (splitMark_nil_cases hs hmark).imp_right .inl
    · rintro (rfl | rfl | hhead)
      · cases hmark
        rfl
      · cases hmark
        rfl
      · -- a text without brackets does not begin with one
        obtain ⟨mark, rfl, hmarked⟩ := exists_of_splitMark hmark
        exact absurd rfl ((List.mem_append.1 (List.mem_of_head? hhead)).elim
          (fun hc => (hbody _ hc).1) fun hc => (hmarked.unmarked _ hc).1)
  · obtain ⟨mark, rfl, -⟩ := exists_of_splitMark hmark
    rw [List.append_assoc, List.cons_append, List.cons_append] at hs ⊢
    rw [Text.ofList_eq_empty_iff, trim_front_eq_nil_iff hs hfront]
    refine ⟨fun hhead => .inr (.inr hhead), ?_⟩
    rintro (hnil | hsingle | hhead)
    · simp at hnil
    · -- a single mark for null is no bracket
      have hmem : .scalar '<' ∈ [CodePoint.scalar '?'] := hsingle ▸ by simp
      simp at hmem
    · exact hhead

/-- **The values that stand for a reference without a name.** -/
theorem name_eq_empty_iff (h : ofValue v = .ok t) : t.name = "" ↔ Nameless v := by
  rcases ofValue_cases h with ⟨rfl, rfl⟩ | ⟨s, rfl, hread⟩ |
      ⟨members, written, arguments, rfl, hname, -, rfl⟩
  · exact iff_of_true rfl .null
  · rw [ofChars_name_eq_empty_iff (Text.trimmed_trim _) hread]
    constructor
    · rintro (hblank | hmark | hbracket)
      · exact .blank hblank
      · exact .mark hmark
      · exact .bracket hbracket
    · rintro (_ | hblank | hmark | hbracket)
      · exact .inl hblank
      · exact .inr (.inl hmark)
      · exact .inr (.inr hbracket)
  · rw [Text.ofList_eq_empty_iff]
    refine ⟨.object hname, ?_⟩
    rintro (_ | _ | _ | _ | ⟨hname', hblank⟩)
    rw [hname, Value.str.injEq] at hname'
    exact hname' ▸ hblank

/-! ### Type arguments -/

/-- A value has another as a type argument: an object has those in its list, and a text those that
stand between two outer commas inside its brackets. -/
inductive HasArgument : Value → Value → Prop
  | item {members : Value.Members} {items : List Value} {a : Value}
      (harguments : Value.member? members "arguments" = some (.arr items)) (ha : a ∈ items) :
      HasArgument (.obj members) a
  | piece {s : Text} {front inner mark p : List CodePoint} {nullable : Bool}
      (hs : trim s.toList = front ++ (.scalar '<' :: inner ++ [CodePoint.scalar '>']) ++ mark) (hfront : .scalar '<' ∉ front)
      (hmark : Marked nullable mark) (hp : MaximalPiece inner p) :
      HasArgument (.str s) (.str (Text.ofList p))

/-- An accepted text with brackets has the pieces between them as its arguments. -/
theorem ofChars_arguments (hmark : Marked nullable mark) (hfront : .scalar '<' ∉ front)
    (h : ofChars (front ++ (.scalar '<' :: inner ++ [CodePoint.scalar '>']) ++ mark) = .ok t) :
    ∃ parts, splitArguments inner = .ok parts ∧
      parts.mapM (fun part => ofChars (trim part)) = .ok t.arguments := by
  have hsplit := splitMark_of_bracketed front inner hmark
  rcases ofChars_cases h with ⟨body, nullable', hbody, hplain, -⟩ |
      ⟨front', inner', nullable', parts, arguments, hbody, hfront', hparts, harguments, rfl⟩
  · rw [hsplit, Prod.mk.injEq] at hbody
    exact absurd rfl (hplain '<' (hbody.1 ▸ by simp)).1
  · rw [hsplit, Prod.mk.injEq] at hbody
    have hinner := congrArg between hbody.1
    rw [between_of_not_mem hfront, between_of_not_mem hfront'] at hinner
    exact ⟨parts, hinner ▸ hparts, harguments⟩

/-- What stands as a type argument in a value is read as an argument of the reference. -/
theorem exists_argument (h : ofValue v = .ok t) (ha : HasArgument v a) :
    ∃ u ∈ t.arguments, ofValue a = .ok u := by
  cases ha with
  | @item members items a hitems ha =>
    obtain ⟨⟨⟩, -⟩ | ⟨_, ⟨⟩, -⟩ | ⟨_, _, arguments, ⟨⟩, -, harguments, rfl⟩ := ofValue_cases h
    rcases argumentsOf_cases harguments with ⟨items', hitems', hread⟩ | ⟨hnot, -⟩
    · rw [hitems, Option.some.injEq, Value.arr.injEq] at hitems'
      subst hitems'
      obtain ⟨u, hu⟩ := exists_of_mapM hread ha
      exact ⟨u, mem_of_mapM hread ha hu, hu⟩
    · exact absurd hitems (hnot items)
  | @piece s front inner mark p nullable hs hfront hmark hp =>
    obtain ⟨⟨⟩, -⟩ | ⟨_, ⟨⟩, hread⟩ | ⟨_, _, _, ⟨⟩, -⟩ := ofValue_cases h
    rw [hs] at hread
    obtain ⟨parts, hparts, harguments⟩ := ofChars_arguments hmark hfront hread
    have hmem : p ∈ parts := (mem_pieces_iff (splitArguments_eq_ok_iff.1 hparts).1).2 hp
    obtain ⟨u, hu⟩ := exists_of_mapM harguments hmem
    refine ⟨u, mem_of_mapM harguments hmem hu, ?_⟩
    rw [ofValue, ofText, Text.toList_ofList]
    exact hu

/-- Every argument of the reference is read from what stands as a type argument in the value. -/
theorem exists_hasArgument (h : ofValue v = .ok t) (hu : u ∈ t.arguments) :
    ∃ a, HasArgument v a ∧ ofValue a = .ok u := by
  rcases ofValue_cases h with ⟨-, rfl⟩ | ⟨s, rfl, hread⟩ |
      ⟨members, written, arguments, rfl, -, harguments, rfl⟩
  · cases hu
  · rcases ofChars_cases hread with ⟨_, _, -, -, rfl⟩ |
        ⟨front, inner, nullable, parts, arguments, hmark, hfront, hparts, harguments, rfl⟩
    · cases hu
    · obtain ⟨mark, hs, hmarked⟩ := exists_of_splitMark hmark
      obtain ⟨p, hp, hpart⟩ := exists_of_mem_mapM harguments hu
      refine ⟨.str (Text.ofList p), .piece hs hfront hmarked
        ((mem_pieces_iff (splitArguments_eq_ok_iff.1 hparts).1).1 hp), ?_⟩
      rw [ofValue, ofText, Text.toList_ofList]
      exact hpart
  · rcases argumentsOf_cases harguments with ⟨items, hitems, hread⟩ | ⟨-, rfl⟩
    · obtain ⟨a, ha, hitem⟩ := exists_of_mem_mapM hread hu
      exact ⟨a, .item hitems ha, hitem⟩
    · cases hu

/-- **A reference has no empty name at any depth** exactly if no value without a name stands for it, or
for an argument at some depth. -/
theorem everyName_ne_empty_iff (h : ofValue v = .ok t) :
    t.EveryName (· ≠ "") ↔ ∀ b, ReflTransGen HasArgument v b → ¬Nameless b := by
  induction t generalizing v with
  | mk name nullable arguments ih =>
    rw [everyName_iff, ne_eq, name_eq_empty_iff h]
    constructor
    · rintro ⟨hname, harguments⟩ b hb
      rcases hb.cases_head with rfl | ⟨a, ha, hb⟩
      · exact hname
      · obtain ⟨u, hu, hread⟩ := exists_argument h ha
        exact (ih u hu hread).1 (harguments u hu) b hb
    · intro hnone
      refine ⟨hnone v .refl, fun u hu => ?_⟩
      obtain ⟨a, ha, hread⟩ := exists_hasArgument h hu
      exact (ih u hu hread).2 fun b hb => hnone b (.head ha hb)

end KotlinPreferences.TypeRef
