import KotlinPreferences.Proofs.Holder.Generation
import KotlinPreferences.Proofs.Output.Places

/-!
# Classes with an encoding

A class is written around texts of the document and of the options, and it has an encoding just if all
of them have one. Its file is told by some of them, so nothing about a file that was written lacks an
encoding.

* `Kotlin.Accessor.isUnicode_name`: the name in a variable with an encoding;
* `Holder.isUnicode_classFile`: what has to have an encoding for a class to have one;
* `Holder.isUnicode_classHeader`: the path of a class with an encoding.
-/

namespace KotlinPreferences

namespace Kotlin

@[simp] theorem isUnicode_unlines (lines : List Text) :
    (unlines lines).isUnicode = lines.all Text.isUnicode := by
  rw [unlines, Text.isUnicode_join, List.all_map]
  congr 1
  funext line
  simp

/-- A variable with an encoding has a name with one. -/
theorem Accessor.isUnicode_name {a : Accessor} {escaped : Bool} {text : Text}
    (h : a.render? escaped = some text) (hunicode : text.isUnicode = true) :
    a.name.isUnicode = true := by
  simp only [render?, Option.bind_eq_bind, Option.bind_eq_some_iff, Option.pure_def,
    Option.some.injEq] at h
  obtain ⟨key, -, default, -, rfl⟩ := h
  -- the name stands in the first line
  rw [isUnicode_unlines, lines, List.all_cons, Bool.and_eq_true] at hunicode
  have hfirst : a.name.isUnicode = true ∧ a.declaredType.isUnicode = true := by
    simpa using hunicode.1
  exact hfirst.1

theorem HolderClass.isUnicode_opening (c : HolderClass) :
    c.opening.isUnicode = true ↔ c.package.isUnicode = true ∧ c.name.isUnicode = true ∧
      c.storeParam.isUnicode = true ∧ c.storeType.isUnicode = true := by
  simp [opening]

end Kotlin

namespace Holder

variable {g : SymbolGraph} {options : Options} {holder : TypeDecl} {p : Preference}
  {package : Text} {texts : List Text}

/-- A class has an encoding just if all that it is written around has one. -/
theorem isUnicode_classFile : (classFile options package holder texts).content.isUnicode = true ↔
    (package.isUnicode = true ∧ holder.name.isUnicode = true ∧
      options.storeParam.text.isUnicode = true ∧ options.storeType.text.isUnicode = true) ∧
      ∀ text ∈ texts, text.isUnicode = true := by
  rw [classFile, Text.isUnicode_append, Text.isUnicode_append, Text.isUnicode_join,
    Text.isUnicode_ofString, Bool.and_true, Bool.and_eq_true, Kotlin.HolderClass.isUnicode_opening,
    List.all_eq_true]

/-- The path of a class with an encoding has one. -/
theorem isUnicode_classHeader
    (h : (classFile options package holder texts).content.isUnicode = true) :
    (classHeader package holder).path.isUnicode = true := by
  obtain ⟨⟨hpackage, hname, -⟩, -⟩ := isUnicode_classFile.1 h
  exact Path.isUnicode_relativePath hpackage hname (by decide)

/-- The variable of a preference has an encoding only if the name of its property does. -/
theorem isUnicode_name_of_accessor {text : Text} (h : accessor g options p = .ok text)
    (hunicode : text.isUnicode = true) : p.name.isUnicode = true := by
  obtain ⟨a, hname, -, hrender⟩ := exists_of_accessor h
  exact hname ▸ a.isUnicode_name hrender hunicode

end Holder

end KotlinPreferences
