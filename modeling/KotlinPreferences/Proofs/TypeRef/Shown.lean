import KotlinPreferences.Proofs.TypeRef.Encoding
import KotlinPreferences.SymbolGraph.DebugView

/-!
# A type reference that is shown is read again

No name in a reference that was read has blanks around it, wherever it stands in the reference. What is
shown of such a reference is an object in which the names stand as they are, so it is read as the same
reference.

* `Stripped`: no name in a reference has blanks around it;
* `stripped_of_ofChars`, `stripped_of_ofValue`: so it is in a reference that was read;
* `ofValue_toValue`: what is shown of such a reference is read as that reference.
-/

namespace KotlinPreferences.TypeRef

variable {s : List CodePoint} {t : TypeRef} {v : Value}

/-- No name in a reference, at no depth, has blanks around it. -/
inductive Stripped : TypeRef → Prop
  | mk {name : Text} {nullable : Bool} {arguments : List TypeRef} (hname : Text.Trimmed name.toList)
      (harguments : ∀ a ∈ arguments, Stripped a) : Stripped ⟨name, nullable, arguments⟩

theorem stripped_singleton {nullable : Bool} (hs : Text.Trimmed s) :
    Stripped ⟨Text.ofList s, nullable, []⟩ :=
  .mk (by rwa [Text.toList_ofList]) (by simp)

/-- A text without outer blanks is read as a reference without blanks around its names. -/
theorem stripped_of_ofChars (hs : Text.Trimmed s) (h : ofChars s = .ok t) : Stripped t := by
  fun_induction ofChars s generalizing t with
  | case1 | case3 | case4 => cases h
  | case2 =>
    rename_i ih
    simp only [bind_eq_ok_iff, pure_eq_ok, Except.ok.injEq] at h
    obtain ⟨arguments, harguments, rfl⟩ := h
    refine .mk ?_ fun a ha => ?_
    · rw [Text.toList_ofList]
      exact Text.trimmed_trim _
    · obtain ⟨part, -, hpart⟩ := exists_of_mem_mapM harguments ha
      exact ih part (Text.trimmed_trim _) hpart
  | case5 =>
    cases h
    exact stripped_singleton (trimmed_splitMark hs)

/-- A reference that was read has no blanks around its names. -/
theorem stripped_of_ofValue (h : ofValue v = .ok t) : Stripped t := by
  fun_induction ofValue v generalizing t with
  | case1 =>
    cases h
    exact .mk ⟨by simp, by simp⟩ (by simp)
  | case2 => exact stripped_of_ofChars (Text.trimmed_trim _) h
  | case3 =>
    rename_i ih
    obtain ⟨arguments, harguments, h⟩ := bind_eq_ok_iff.1 h
    cases h
    refine .mk ?_ fun a ha => ?_
    · rw [Text.toList_ofList]
      exact Text.trimmed_trim _
    · obtain ⟨item, -, hitem⟩ := exists_of_mem_mapM harguments ha
      exact ih item hitem
  | case5 | case6 =>
    cases h
    exact stripped_singleton (Text.trimmed_trim _)
  | case4 | case7 | case8 => cases h

theorem toValues_eq_map (ts : List TypeRef) : toValues ts = ts.map toValue := by
  induction ts with
  | nil => rfl
  | cons t rest ih => rw [toValues, ih, List.map_cons]

/-- **What is shown of a reference is read as that reference,** if its names have no blanks around
them. -/
theorem ofValue_toValue (h : Stripped t) : ofValue t.toValue = .ok t := by
  induction t with
  | mk name nullable arguments ih =>
    cases h with
    | mk hname harguments =>
      have hread : (toValues arguments).mapM ofValue = .ok arguments := by
        rw [toValues_eq_map, List.mapM_map]
        have hall := mapM_eq_map (k := id) fun a ha => ih a ha (harguments a ha)
        rwa [List.map_id] at hall
      have hmember : nameMember [("qualified_name", .str name), ("nullable", .bool nullable),
          ("arguments", .arr (toValues arguments))] = .str name := rfl
      rw [toValue, ofValue_obj hmember, argumentsOf_eq (.inl rfl), hread, ok_bind,
        Text.trim_of_trimmed hname, Text.ofList_toList]
      rfl

end KotlinPreferences.TypeRef
