import KotlinPreferences.Text.Printable
import KotlinPreferences.Value

/-!
# Values as text

How a value reads in a message or in generated text.

* `Value.quoted`: the value with its texts in quotes, as messages show it;
* `Value.text`: the same, but a value that is a text stands for itself.
-/

namespace KotlinPreferences

/-- A digit of base sixteen, in lower case. -/
def hexDigit (n : Nat) : Char :=
  Char.ofNat (if n < 10 then 0x30 + n else 0x57 + n)

/-- The last `width` digits of a number in base sixteen. -/
def hexDigits (n : Nat) : Nat → List Char
  | 0 => []
  | width + 1 => hexDigits (n / 16) width ++ [hexDigit (n % 16)]

namespace Quoted

/-- The mark around a quoted text: apostrophes, or quotation marks around a text that has an
apostrophe and no quotation mark. -/
def mark (s : List CodePoint) : CodePoint :=
  if s.contains (.scalar (Char.ofNat 0x27)) && !s.contains (.scalar '"') then '"'
  else Char.ofNat 0x27

/-- An escape of a code point by its number. -/
def escaped (c : CodePoint) : List Char :=
  let n := c.toNat
  if n < 0x100 then '\\' :: 'x' :: hexDigits n 2
  else if n < 0x10000 then '\\' :: 'u' :: hexDigits n 4
  else '\\' :: 'U' :: hexDigits n 8

/-- A code point inside the quotes `quote`. -/
def inside (quote c : CodePoint) : List CodePoint :=
  if c = quote ∨ c = '\\' then ['\\', c]
  else if c = '\n' then ['\\', 'n']
  else if c = '\r' then ['\\', 'r']
  else if c = '\t' then ['\\', 't']
  else if Text.isPrintable c then [c]
  else (escaped c).map .scalar

/-- A text in quotes. -/
def ofText (s : Text) : Text :=
  let quote := mark s.toList
  Text.ofList (quote :: s.toList.flatMap (inside quote) ++ [quote])

end Quoted

namespace Value

mutual

/-- The value as messages show it, texts in quotes. -/
def quoted : Value → Text
  | null => "None"
  | bool true => "True"
  | bool false => "False"
  | int n => .ofInt n
  | double d => d.text
  | str s => Quoted.ofText s
  | arr items => "[" ++ quotedItems items ++ "]"
  | obj members => "\x7b" ++ quotedMembers members ++ "\x7d"

/-- The items of a list, parted by commas. -/
def quotedItems : List Value → Text
  | [] => ""
  | [v] => v.quoted
  | v :: rest => v.quoted ++ ", " ++ quotedItems rest

/-- The members of an object, parted by commas. -/
def quotedMembers : List (Text × Value) → Text
  | [] => ""
  | [(name, v)] => Quoted.ofText name ++ ": " ++ v.quoted
  | (name, v) :: rest => Quoted.ofText name ++ ": " ++ v.quoted ++ ", " ++ quotedMembers rest

end

/-- The value inside a text: a text stands for itself, all else is as in messages. -/
def text : Value → Text
  | str s => s
  | v => v.quoted

@[simp] theorem text_str (s : Text) : text (str s) = s := rfl

/-- Two texts are the same value if they read the same. -/
theorem eq_of_text {v w : Value} (hv : v.isText = true) (hw : w.isText = true)
    (h : v.text = w.text) : v = w := by
  obtain ⟨s, rfl⟩ := isText_cases hv
  obtain ⟨t, rfl⟩ := isText_cases hw
  exact congrArg str h

end Value

end KotlinPreferences
