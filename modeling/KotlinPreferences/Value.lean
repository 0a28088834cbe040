import KotlinPreferences.Double

/-!
# JSON values

What a document, an annotation argument or an option may hold. The members of an object keep the
order in which they were written, since that order shows when the value is printed.

* `Value`, `Value.Members`;
* `Value.truthy`: a value that does not count as missing; `Value.isText`: a text;
* `Value.member?`, `Value.member`: the member of a name;
* `Value.sizeOf_lt_of_member?`: a member is smaller than the object it stands in.
-/

namespace KotlinPreferences

/-- A JSON value. -/
inductive Value where
  | null
  | bool (b : Bool)
  | int (n : Int)
  | double (d : Double)
  | str (s : Text)
  | arr (items : List Value)
  | obj (members : List (Text × Value))
  deriving Inhabited

namespace Value

/-- The members of an object, in order. -/
abbrev Members := List (Text × Value)

/-- The member of a name, if there is one. -/
def member? (members : Members) (name : Text) : Option Value := members.lookup name

/-- The member of a name; a missing one counts as null. -/
def member (members : Members) (name : Text) : Value := (member? members name).getD .null

/-- A value that does not count as missing: null, false, zero and everything empty do. -/
def truthy : Value → Bool
  | null => false
  | bool b => b
  | int n => n != 0
  | double d => d.truthy
  | str s => s != ""
  | arr items => !items.isEmpty
  | obj members => !members.isEmpty

/-- A text. -/
def isText : Value → Bool
  | str _ => true
  | _ => false

@[simp] theorem truthy_null : truthy null = false := rfl

@[simp] theorem truthy_str (s : Text) : truthy (str s) = (s != "") := rfl

theorem isText_cases {v : Value} (h : v.isText = true) : ∃ s, v = str s := by
  cases v with
  | str s => exact ⟨s, rfl⟩
  | _ => cases h

theorem sizeOf_lt_of_member? {members : Members} {name : Text} {v : Value}
    (h : member? members name = some v) : sizeOf v < sizeOf members := by
  induction members with
  | nil => simp [member?] at h
  | cons member rest ih =>
    obtain ⟨key, w⟩ := member
    by_cases hk : name = key
    · simp only [member?, hk, List.lookup_cons, beq_self_eq_true, Option.some.injEq] at h
      subst h
      simp only [List.cons.sizeOf_spec, Prod.mk.sizeOf_spec]
      omega
    · have hne : (name == key) = false := by simp [hk]
      simp only [member?, List.lookup_cons, hne] at h
      have := ih h
      simp only [List.cons.sizeOf_spec]
      omega

end Value

end KotlinPreferences
