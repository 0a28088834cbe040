import KotlinPreferences.Text

/-!
# Type references

A type as a declaration refers to it: the name of a type, type arguments, and whether null is
among its values.

* `TypeRef`, its decidable equality and its induction principle;
* `TypeRef.chars`, `TypeRef.render`: the Kotlin text of a reference, as in
  `kotlin.collections.List<kotlin.String>?`.
-/

namespace KotlinPreferences

/-- A reference to a type. -/
structure TypeRef where
  name : Text
  nullable : Bool := false
  arguments : List TypeRef := []
  deriving Inhabited

namespace TypeRef

/-- A statement holds of every reference if it passes from the arguments to the whole. -/
@[induction_eliminator]
theorem inductionOn {motive : TypeRef → Prop}
    (mk : ∀ name nullable arguments, (∀ a ∈ arguments, motive a) →
      motive ⟨name, nullable, arguments⟩) : ∀ t, motive t
  | ⟨name, nullable, arguments⟩ =>
    mk name nullable arguments fun a ha =>
      have := List.sizeOf_lt_of_mem ha
      inductionOn mk a
  termination_by t => sizeOf t
  decreasing_by
    simp only [TypeRef.mk.sizeOf_spec]
    omega

mutual

/-- Equality of two references. -/
def same : TypeRef → TypeRef → Bool
  | ⟨m, p, as⟩, ⟨n, q, bs⟩ => decide (m = n) && decide (p = q) && sameAll as bs

/-- Equality of two lists of references. -/
def sameAll : List TypeRef → List TypeRef → Bool
  | [], [] => true
  | a :: as, b :: bs => same a b && sameAll as bs
  | _, _ => false

end

mutual

theorem same_iff : ∀ s t : TypeRef, same s t = true ↔ s = t
  | ⟨m, p, as⟩, ⟨n, q, bs⟩ => by
    simp [same, sameAll_iff as bs, and_assoc]

theorem sameAll_iff : ∀ as bs : List TypeRef, sameAll as bs = true ↔ as = bs
  | [], [] => by simp [sameAll]
  | [], _ :: _ => by simp [sameAll]
  | _ :: _, [] => by simp [sameAll]
  | a :: as, b :: bs => by simp [sameAll, same_iff a b, sameAll_iff as bs]

end

instance : DecidableEq TypeRef := fun s t => decidable_of_iff _ (same_iff s t)

mutual

/-- The characters of the Kotlin text of a reference. -/
def chars : TypeRef → List CodePoint
  | ⟨name, nullable, arguments⟩ =>
    name.toList ++ argumentChars arguments ++ (if nullable then [CodePoint.scalar '?'] else [])

/-- The type arguments in angle brackets, and nothing where there are none. -/
def argumentChars : List TypeRef → List CodePoint
  | [] => []
  | a :: rest => .scalar '<' :: a.chars ++ furtherChars rest ++ [CodePoint.scalar '>']

/-- The type arguments after the first, each behind a comma and a space. -/
def furtherChars : List TypeRef → List CodePoint
  | [] => []
  | a :: rest => .scalar ',' :: .scalar ' ' :: a.chars ++ furtherChars rest

end

/-- The Kotlin text of a reference. -/
def render (t : TypeRef) : Text := Text.ofList t.chars

end TypeRef

end KotlinPreferences
