import KotlinPreferences.Malformed
import KotlinPreferences.Text.Blank
import KotlinPreferences.TypeRef

/-!
# Reading type references

A reference is written as a text, as in `kotlin.collections.List<kotlin.String>?`, or as an object
with a name, a mark for null and a list of arguments; the arguments of an object may be of either
form. Blanks around the parts of a text do not count.

* `TypeRef.pieces`: the text between two angle brackets, cut at the commas of depth zero;
* `TypeRef.splitArguments`: the same, refusing brackets that do not match and blank pieces;
* `TypeRef.ofChars`: the reference that a text denotes;
* `TypeRef.ofValue`: the reference that a value of a document denotes.
-/

namespace KotlinPreferences.TypeRef

/-- Puts a character in front of the first of some pieces. -/
def onFirst (c : CodePoint) : List (List CodePoint) → List (List CodePoint)
  | [] => [[c]]
  | piece :: pieces => (c :: piece) :: pieces

/-- The text cut at the commas of depth zero; `none` when the brackets do not match. -/
def pieces : Nat → List CodePoint → Option (List (List CodePoint))
  | depth, [] => if depth = 0 then some [[]] else none
  | depth, c :: rest =>
    if c = '<' then (pieces (depth + 1) rest).map (onFirst c)
    else if c = '>' then
      if depth = 0 then none else (pieces (depth - 1) rest).map (onFirst c)
    else if c = ',' ∧ depth = 0 then (pieces 0 rest).map ([] :: ·)
    else (pieces depth rest).map (onFirst c)

theorem length_le_of_mem_onFirst {c : CodePoint} {ps : List (List CodePoint)} {p : List CodePoint} {n : Nat}
    (h : ∀ q ∈ ps, q.length ≤ n) (hp : p ∈ onFirst c ps) : p.length ≤ n + 1 := by
  cases ps with
  | nil =>
    simp only [onFirst, List.mem_singleton] at hp
    simp [hp]
  | cons q qs =>
    rcases List.mem_cons.mp hp with rfl | hq
    · have := h q (by simp)
      simp only [List.length_cons]
      omega
    · have := h p (by simp [hq])
      omega

/-- No piece is longer than the text it was cut from. -/
theorem length_le_of_mem_pieces {depth : Nat} {s : List CodePoint} {ps : List (List CodePoint)}
    (h : pieces depth s = some ps) : ∀ p ∈ ps, p.length ≤ s.length := by
  induction s generalizing depth ps with
  | nil =>
    rw [pieces] at h
    split at h
    · cases h
      simp
    · cases h
  | cons c rest ih =>
    intro p hp
    rw [pieces] at h
    split at h
    · obtain ⟨qs, hqs, rfl⟩ := Option.map_eq_some_iff.mp h
      exact length_le_of_mem_onFirst (ih hqs) hp
    · split at h
      · split at h
        · cases h
        · obtain ⟨qs, hqs, rfl⟩ := Option.map_eq_some_iff.mp h
          exact length_le_of_mem_onFirst (ih hqs) hp
      · split at h
        · obtain ⟨qs, hqs, rfl⟩ := Option.map_eq_some_iff.mp h
          rcases List.mem_cons.mp hp with rfl | hq
          · simp
          · have := ih hqs p hq
            simp only [List.length_cons]
            omega
        · obtain ⟨qs, hqs, rfl⟩ := Option.map_eq_some_iff.mp h
          exact length_le_of_mem_onFirst (ih hqs) hp

/-- The type arguments written between two angle brackets. -/
def splitArguments (inner : List CodePoint) : Except Malformed (List (List CodePoint)) :=
  match pieces 0 inner with
  | none => .error (.unbalancedArguments (Text.ofList inner))
  | some ps =>
    if ps.any Text.isBlankText then .error (.emptyArgument (Text.ofList inner)) else .ok ps

theorem length_le_of_mem_splitArguments {inner : List CodePoint} {ps : List (List CodePoint)}
    (h : splitArguments inner = .ok ps) : ∀ p ∈ ps, p.length ≤ inner.length := by
  unfold splitArguments at h
  split at h
  · cases h
  · split at h
    · cases h
    · cases h
      exact length_le_of_mem_pieces ‹_›

/-- A text parted into the mark for null at its end, if it has one, and what stands before it. -/
def splitMark (s : List CodePoint) : List CodePoint × Bool :=
  if s.getLast? = some (CodePoint.scalar '?') then (Text.trimEnd s.dropLast, true) else (s, false)

/-- What stands between the first opening bracket and the last character. -/
def between (s : List CodePoint) : List CodePoint := ((s.dropWhile (· != CodePoint.scalar '<')).drop 1).dropLast

theorem splitMark_length_le (s : List CodePoint) : (splitMark s).1.length ≤ s.length := by
  unfold splitMark
  split
  · have := Text.trimEnd_length_le s.dropLast
    simp only [List.length_dropLast] at this
    simp only
    omega
  · exact Nat.le_refl _

theorem between_length_lt {s : List CodePoint} (h : .scalar '<' ∈ s) : (between s).length < s.length := by
  have hsub := (List.dropWhile_sublist (l := s) (· != CodePoint.scalar '<')).length_le
  have hpos : 0 < s.length := List.length_pos_of_mem h
  simp only [between, List.length_dropLast, List.length_drop]
  omega

/-- The reference that a text without outer blanks denotes. -/
def ofChars (s : List CodePoint) : Except Malformed TypeRef :=
  let body := (splitMark s).1
  let nullable := (splitMark s).2
  if _hopen : .scalar '<' ∈ body then
    if body.getLast? = some (CodePoint.scalar '>') then
      match _hsplit : splitArguments (between body) with
      | .error e => .error e
      | .ok parts => do
        let arguments ← parts.attach.mapM fun part => ofChars (Text.trim part.1)
        pure ⟨Text.ofList (Text.trim (body.takeWhile (· != CodePoint.scalar '<'))), nullable, arguments⟩
    else .error (.typeText (Text.ofList body))
  else if .scalar '>' ∈ body ∨ .scalar ',' ∈ body then .error (.typeText (Text.ofList body))
  else .ok ⟨Text.ofList body, nullable, []⟩
  termination_by s.length
  decreasing_by
    have h1 := Text.trim_length_le part.1
    have h2 := length_le_of_mem_splitArguments _hsplit part.1 part.2
    have h3 := between_length_lt _hopen
    have h4 : body.length ≤ s.length := splitMark_length_le s
    omega

/-- The reference that a text denotes. -/
def ofText (s : Text) : Except Malformed TypeRef := ofChars (Text.trim s.toList)

/-- The name in an object that denotes a reference: under `name`, or else under
`qualified_name`. -/
def nameMember (members : Value.Members) : Value :=
  (Value.member? members "name").getD (Value.member members "qualified_name")

/-- The reference that a value denotes; null denotes the reference without a name. -/
def ofValue : Value → Except Malformed TypeRef
  | .null => .ok ⟨"", false, []⟩
  | .str s => ofText s
  | .obj members =>
    match nameMember members with
    | .str name => do
      let arguments ←
        match _hargs : Value.member? members "arguments" with
        | some (.arr items) => items.attach.mapM fun item => ofValue item.1
        | some v =>
          if v.truthy then .error (.typeArgumentsNotList (.obj members)) else .ok []
        | none => .ok []
      pure ⟨Text.ofList (Text.trim name.toList), (Value.member members "nullable").truthy, arguments⟩
    | _ => .error (.unnamedTypeRef (.obj members))
  | v => .error (.notTypeRef v)
  termination_by v => sizeOf v
  decreasing_by
    have h1 := List.sizeOf_lt_of_mem item.2
    have h2 := Value.sizeOf_lt_of_member? _hargs
    simp only [Value.arr.sizeOf_spec] at h2
    simp only [Value.obj.sizeOf_spec]
    omega

end KotlinPreferences.TypeRef
