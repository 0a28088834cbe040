import KotlinPreferences.Kotlin.Literal

/-!
# Text of a generated class

A holder is generated as a class that keeps a store and has one variable for each preference. The
variable reads its text through the store and a converter, and writes it back the same way.

* `Accessor`, `Accessor.render?`: the variable of one preference;
* `HolderClass`, `HolderClass.render`: the file of a class around its variables.
-/

namespace KotlinPreferences.Kotlin

/-- Lines of text, each ended by a line break. -/
def unlines (lines : List Text) : Text := Text.join (lines.map (· ++ "\n"))

/-- A variable for one preference. The types and the converter are given as Kotlin text. -/
structure Accessor where
  name : Text
  declaredType : Text
  key : Value
  default : Value
  converter : Text
  storeParam : Text

/-- The lines of a variable, with the texts of its two literals. -/
def Accessor.lines (a : Accessor) (key default : Text) : List Text :=
  ["    var " ++ a.name ++ ": " ++ a.declaredType,
    "        get() \x7b",
    "            val converter = " ++ a.converter ++ "()",
    "            val rawValue = " ++ a.storeParam ++ ".read(\"" ++ key ++ "\")",
    "                ?: \"" ++ default ++ "\"",
    "            return converter.parse(rawValue)",
    "        \x7d",
    "        set(value) \x7b",
    "            val converter = " ++ a.converter ++ "()",
    "            val rawValue = converter.format(value)",
    "            " ++ a.storeParam ++ ".write(\"" ++ key ++ "\", rawValue)",
    "        \x7d"]

/-- The text of a variable; there is none when a literal is to be escaped that is no text. -/
def Accessor.render? (a : Accessor) (escaped : Bool) : Option Text := do
  let key ← literal? escaped a.key
  let default ← literal? escaped a.default
  pure (unlines (a.lines key default))

/-- A generated class: where it stands, its name, and the store it keeps. -/
structure HolderClass where
  package : Text
  name : Text
  storeParam : Text
  storeType : Text

namespace HolderClass

/-- The lines in front of the variables. -/
def opening (c : HolderClass) : Text :=
  unlines
    ["package " ++ c.package,
      "",
      "class " ++ c.name ++ "(",
      "    private val " ++ c.storeParam ++ ": " ++ c.storeType,
      ") \x7b"]

/-- The line behind the variables. -/
def closing : Text := "\x7d\n"

/-- The text of the file, around the texts of its variables. -/
def render (c : HolderClass) (accessors : List Text) : Text :=
  c.opening ++ Text.join accessors ++ closing

end HolderClass

end KotlinPreferences.Kotlin
