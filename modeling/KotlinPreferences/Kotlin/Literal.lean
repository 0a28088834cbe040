import KotlinPreferences.Value.Display

/-!
# Kotlin string literals

* `escape`: a text with everything escaped that has a meaning inside a Kotlin string literal;
* `literal?`: what stands between the quotes for a value, escaped or as it is.
-/

namespace KotlinPreferences.Kotlin

/-- A character inside a string literal. A dollar sign would start a template. -/
def escapeChar (c : CodePoint) : List CodePoint :=
  if c = '\\' then ['\\', '\\']
  else if c = '"' then ['\\', '"']
  else if c = '$' then ['\\', '$']
  else if c = '\n' then ['\\', 'n']
  else if c = '\r' then ['\\', 'r']
  else if c = '\t' then ['\\', 't']
  else [c]

/-- The text inside a string literal that denotes it. -/
def escape (s : Text) : Text := Text.ofList (s.toList.flatMap escapeChar)

theorem escape_append (s t : Text) : escape (s ++ t) = escape s ++ escape t :=
  Text.toList_injective (by simp [escape])

/-- What stands between the quotes for a value. Only texts can be escaped; unescaped, any value
stands there as its text. -/
def literal? (escaped : Bool) (v : Value) : Option Text :=
  if escaped then
    match v with
    | .str s => some (escape s)
    | _ => none
  else some v.text

end KotlinPreferences.Kotlin
