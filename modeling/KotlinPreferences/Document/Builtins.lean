import KotlinPreferences.SymbolGraph
import KotlinPreferences.Vocabulary

/-!
# Built-in declarations

Types that generation relies on and that a document need not declare: `kotlin.Any`,
`kotlin.String`, the interface of converters, and the converter that leaves texts as they are,
with its two functions.

* `SymbolGraph.withBuiltins`: the graph with those built-in types whose names and ids are free.
-/

namespace KotlinPreferences

namespace Builtin

/-- The package and the simple name of a qualified name. -/
def splitName (qualifiedName : Text) : Value × Text :=
  let reversed := qualifiedName.toList.reverse
  let name := Text.ofList (reversed.takeWhile (· != CodePoint.scalar '.')).reverse
  let package := Text.ofList ((reversed.dropWhile (· != CodePoint.scalar '.')).drop 1).reverse
  (if package = "" then .null else .str package, name)

/-- The id of the node of a built-in type. -/
def typeId (qualifiedName : Text) : Text := "type:" ++ qualifiedName

/-- A built-in type. -/
def typeDecl (qualifiedName : Text) (kind : TypeKind) : TypeDecl :=
  { id := typeId qualifiedName
    name := (splitName qualifiedName).2
    qualifiedName := .str qualifiedName
    kind := kind
    package := (splitName qualifiedName).1
    sourceFile := .null
    annotations := [] }

/-- The id of a function of the built-in converter. -/
def functionId (name : Text) : Text := "fun:" ++ Vocabulary.stringConverter ++ ":" ++ name

/-- The id of the parameter of a function of the built-in converter. -/
def parameterId (name : Text) : Text :=
  "param:" ++ Vocabulary.stringConverter ++ ":" ++ name ++ ":value"

/-- The ids that the functions of the built-in converter and their parameters take. -/
def reservedIds : List Text :=
  [functionId "parse", parameterId "parse", functionId "format", parameterId "format"]

/-- The type of texts. -/
def text : TypeRef := ⟨Vocabulary.stringType, false, []⟩

end Builtin

namespace SymbolGraph

/-- Whether the name and the id of a built-in type are free. -/
def lacks (g : SymbolGraph) (qualifiedName : Text) : Bool :=
  (g.typeNamed? (.str qualifiedName)).isNone && !g.hasNode (Builtin.typeId qualifiedName)

/-- The graph with a built-in type, unless its name or its id is taken. -/
def withType (g : SymbolGraph) (qualifiedName : Text) (kind : TypeKind) : SymbolGraph :=
  if g.lacks qualifiedName then g.insert (.typeDecl (Builtin.typeDecl qualifiedName kind)) else g

/-- The graph with a function of the built-in converter, which takes a text and gives one. -/
def withConverterFunction (g : SymbolGraph) (name : Text) : SymbolGraph :=
  let f := Builtin.functionId name
  let p := Builtin.parameterId name
  (((g.insert (.function ⟨f, name, some Builtin.text, false⟩)).connect
    ⟨Builtin.typeId Vocabulary.stringConverter, f, .hasFunction⟩).insert
      (.parameter ⟨p, "value", Builtin.text, false⟩)).connect ⟨p, f, .paramOf⟩

/-- The graph with an edge from the built-in converter to the interface of converters, if there is
one. -/
def withConverterInterface (g : SymbolGraph) : SymbolGraph :=
  match g.typeNamed? (.str Vocabulary.converterInterface) with
  | some d => g.connect ⟨Builtin.typeId Vocabulary.stringConverter, d.id, .implements⟩
  | none => g

/-- The graph with the built-in converter, unless its name or its id is taken. -/
def withStringConverter (g : SymbolGraph) : SymbolGraph :=
  if g.lacks Vocabulary.stringConverter then
    ((g.withType Vocabulary.stringConverter .classType).withConverterInterface
      |>.withConverterFunction "parse").withConverterFunction "format"
  else g

/-- The graph with the built-in declarations that are not in it yet. -/
def withBuiltins (g : SymbolGraph) : SymbolGraph :=
  (((g.withType Vocabulary.anyType .classType).withType Vocabulary.stringType .classType).withType
    Vocabulary.converterInterface .interface).withStringConverter

end SymbolGraph

end KotlinPreferences
