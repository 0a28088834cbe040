import KotlinPreferences.Declaration
import KotlinPreferences.Failure
import KotlinPreferences.Text.Case
import KotlinPreferences.TypeRef.Reader

/-!
# Declarations of a document

A node of a document has attributes, from which its declaration is read. Missing attributes and
null mostly mean the same; a truth value is read from any value.

* `Document.annotations`: the annotations of a declaration;
* `Document.declaration`: the declaration that the attributes of a node give.
-/

namespace KotlinPreferences.Document

/-- A reading that may find the document malformed, as a step that may fail. -/
def lift {α : Type} (reading : Except Malformed α) : Except Failure α :=
  reading.mapError Failure.malformed

/-- One annotation. -/
def annotationEntry (v : Value) : Except Malformed AnnotationEntry :=
  match v with
  | .obj members =>
    match Value.member members "type" with
    | .str typeName =>
      if typeName = "" then .error (.annotationWithoutType v)
      else
        match Value.member members "arguments" with
        | .obj arguments => .ok ⟨typeName, arguments⟩
        | w => if w.truthy then .error (.annotationArgumentsNotObject v) else .ok ⟨typeName, []⟩
    | _ => .error (.annotationWithoutType v)
  | _ => .error (.annotationWithoutType v)

/-- The annotations of a declaration; null means none. -/
def annotations : Value → Except Malformed (List AnnotationEntry)
  | .null => .ok []
  | .arr items => items.mapM annotationEntry
  | _ => .error .annotationsNotList

/-- The name of a declaration. -/
def name (id : Text) (attrs : Value.Members) : Except Malformed Text :=
  match Value.member attrs "name" with
  | .str s => if s = "" then .error (.namelessNode id) else .ok s
  | _ => .error (.namelessNode id)

/-- The kind of a type; a missing one is a class. -/
def typeKind (id : Text) (v : Value) : Except Failure TypeKind :=
  if v.truthy then
    match v with
    | .str s =>
      orFail (TypeKind.ofName? (Text.lower s)) (.malformed (.declarationKind id (Text.lower s)))
    | _ => .error .wrongShape
  else .ok .classType

/-- The package of a type; everything that counts as missing is none. -/
def package (attrs : Value.Members) : Value :=
  let given := Value.member attrs "package"
  if given.truthy then given else .null

/-- The qualified name of a type; where none is given, the name behind the package. -/
def qualifiedName (attrs : Value.Members) (name : Text) : Value :=
  let given := Value.member attrs "qualified_name"
  if given.truthy then given
  else if (package attrs).truthy then .str ((package attrs).text ++ "." ++ name)
  else .str name

/-- A type. -/
def typeDecl (id : Text) (attrs : Value.Members) : Except Failure TypeDecl := do
  let name ← lift (name id attrs)
  let kind ← typeKind id (Value.member attrs "kind")
  let entries ← lift (annotations (Value.member attrs "annotations"))
  pure
    { id := id
      name := name
      qualifiedName := qualifiedName attrs name
      kind := kind
      package := package attrs
      sourceFile := Value.member attrs "source_file"
      annotations := entries }

/-- A property; one that does not say so is mutable. -/
def property (id : Text) (attrs : Value.Members) : Except Failure Property := do
  let name ← lift (name id attrs)
  let type ← lift (TypeRef.ofValue (Value.member attrs "type"))
  let entries ← lift (annotations (Value.member attrs "annotations"))
  pure
    { id := id
      name := name
      type := type
      isMutable := ((Value.member? attrs "mutable").getD (.bool true)).truthy
      annotations := entries }

/-- The return type of a function, if it has one. -/
def returnType : Value → Except Malformed (Option TypeRef)
  | .null => .ok none
  | v => (TypeRef.ofValue v).map some

/-- A function. -/
def function (id : Text) (attrs : Value.Members) : Except Failure Function := do
  let name ← lift (name id attrs)
  let type ← lift (returnType (Value.member attrs "return_type"))
  pure
    { id := id
      name := name
      returnType := type
      isConstructor := (Value.member attrs "is_constructor").truthy }

/-- A parameter. -/
def parameter (id : Text) (attrs : Value.Members) : Except Failure Parameter := do
  let name ← lift (name id attrs)
  let type ← lift (TypeRef.ofValue (Value.member attrs "type"))
  pure
    { id := id
      name := name
      type := type
      hasDefault := (Value.member attrs "has_default").truthy }

/-- The attributes of a node; everything that counts as missing is none. -/
def attributes (v : Value) : Except Failure Value.Members :=
  match v with
  | .obj members => .ok members
  | _ => if v.truthy then .error .wrongShape else .ok []

/-- The declaration of a kind that the attributes of a node give. -/
def declaration (kind : NodeKind) (id : Text) (attrs : Value) : Except Failure Declaration := do
  let attrs ← attributes attrs
  match kind with
  | .typeDecl => Declaration.typeDecl <$> typeDecl id attrs
  | .property => Declaration.property <$> property id attrs
  | .function => Declaration.function <$> function id attrs
  | .parameter => Declaration.parameter <$> parameter id attrs

end KotlinPreferences.Document
