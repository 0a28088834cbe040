import KotlinPreferences.Kinds
import KotlinPreferences.TypeRef
import KotlinPreferences.Value

/-!
# Declarations

The declarations of a program as far as generation looks at them.

* `AnnotationEntry`: an annotation on a declaration, with its arguments;
* `TypeDecl`, `Property`, `Function`, `Parameter`, and `Declaration`, which is one of them;
* the parts of a declaration that some kinds have and others have not: `annotations?`, `type?`,
  `qualifiedName?`.
-/

namespace KotlinPreferences

/-- An annotation on a declaration. -/
structure AnnotationEntry where
  /-- The qualified name of the annotation. -/
  typeName : Text
  arguments : Value.Members

/-- The first annotation of a type. -/
def entryOf? (entries : List AnnotationEntry) (typeName : Text) : Option AnnotationEntry :=
  entries.find? fun entry => entry.typeName == typeName

/-- The kinds of type declarations. -/
inductive TypeKind where
  | classType
  | interface
  | object
  | enum
  | annotationType
  deriving DecidableEq

namespace TypeKind

/-- The name of a kind. -/
def name : TypeKind → Text
  | classType => "class"
  | interface => "interface"
  | object => "object"
  | enum => "enum"
  | annotationType => "annotation"

/-- The kind of a name in lower case. -/
def ofName? (s : Text) : Option TypeKind :=
  if s = "class" then some classType
  else if s = "interface" then some interface
  else if s = "object" then some object
  else if s = "enum" then some enum
  else if s = "annotation" then some annotationType
  else none

@[simp] theorem ofName?_name (kind : TypeKind) : ofName? kind.name = some kind := by
  cases kind <;> simp [ofName?, name]

end TypeKind

/-- A class, interface or the like. Its qualified name, package and source file are texts by
intention, but a document may give any value. -/
structure TypeDecl where
  id : Text
  name : Text
  qualifiedName : Value
  kind : TypeKind
  package : Value
  sourceFile : Value
  annotations : List AnnotationEntry

/-- A property of a type. -/
structure Property where
  id : Text
  name : Text
  type : TypeRef
  isMutable : Bool
  annotations : List AnnotationEntry

/-- A function of a type. Constructors and functions without a result have no return type. -/
structure Function where
  id : Text
  name : Text
  returnType : Option TypeRef
  isConstructor : Bool

/-- A parameter of a function. -/
structure Parameter where
  id : Text
  name : Text
  type : TypeRef
  hasDefault : Bool

/-- A declaration of any kind. -/
inductive Declaration where
  | typeDecl (d : TypeDecl)
  | property (p : Property)
  | function (f : Function)
  | parameter (p : Parameter)

namespace Declaration

/-- The kind of node that a declaration is. -/
def kind : Declaration → NodeKind
  | typeDecl _ => .typeDecl
  | property _ => .property
  | function _ => .function
  | parameter _ => .parameter

/-- The id of the node of a declaration. -/
def id : Declaration → Text
  | typeDecl d => d.id
  | property p => p.id
  | function f => f.id
  | parameter p => p.id

/-- The simple name of a declaration. -/
def name : Declaration → Text
  | typeDecl d => d.name
  | property p => p.name
  | function f => f.name
  | parameter p => p.name

/-- The annotations of a type or a property; the other kinds keep none. -/
def annotations? : Declaration → Option (List AnnotationEntry)
  | typeDecl d => some d.annotations
  | property p => some p.annotations
  | _ => none

/-- The type of a property or a parameter. -/
def type? : Declaration → Option TypeRef
  | property p => some p.type
  | parameter p => some p.type
  | _ => none

/-- The qualified name of a type. -/
def qualifiedName? : Declaration → Option Value
  | typeDecl d => some d.qualifiedName
  | _ => none

/-- The kind of a type. -/
def typeKind? : Declaration → Option TypeKind
  | typeDecl d => some d.kind
  | _ => none

/-- The declaration as a type. -/
def typeDecl? : Declaration → Option TypeDecl
  | typeDecl d => some d
  | _ => none

/-- The declaration as a function. -/
def function? : Declaration → Option Function
  | function f => some f
  | _ => none

end Declaration

end KotlinPreferences
