import KotlinPreferences.Value

/-!
# Values as lookup keys

Values under which something can be registered. Truth values count as the numbers one and zero,
and a whole number is the same key however it is written; a text is never the same key as a number.
Lists and objects are no keys.

* `Key`, `Value.key?`.
-/

namespace KotlinPreferences

/-- What a value is when something is looked up under it. -/
inductive Key where
  | null
  | int (n : Int)
  /-- A double that is no whole number. -/
  | double (d : Double)
  | str (s : Text)
  deriving DecidableEq

/-- The key of a value; lists and objects have none. -/
def Value.key? : Value → Option Key
  | .null => some .null
  | .bool b => some (.int (if b then 1 else 0))
  | .int n => some (.int n)
  | .double d => some ((d.whole?.map Key.int).getD (.double d))
  | .str s => some (.str s)
  | .arr _ => none
  | .obj _ => none

@[simp] theorem Value.key?_str (s : Text) : (Value.str s).key? = some (.str s) := rfl

theorem Value.key?_eq_str_iff {v : Value} {s : Text} : v.key? = some (.str s) ↔ v = .str s := by
  cases v with
  | double d => cases h : d.whole? <;> simp [Value.key?, h]
  | _ => simp [Value.key?]

end KotlinPreferences
