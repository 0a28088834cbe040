import KotlinPreferences.SymbolGraph

/-!
# The graph in the open

* `Declaration.toValue`: a declaration with all its parts, missing ones as null;
* `SymbolGraph.toValue`: all nodes with their declarations, and all edges in reading order.
-/

namespace KotlinPreferences

mutual

/-- A type reference with all its parts. -/
def TypeRef.toValue : TypeRef → Value
  | ⟨name, nullable, arguments⟩ =>
    .obj [("qualified_name", .str name), ("nullable", .bool nullable),
      ("arguments", .arr (TypeRef.toValues arguments))]

/-- Type references with all their parts. -/
def TypeRef.toValues : List TypeRef → List Value
  | [] => []
  | t :: rest => t.toValue :: TypeRef.toValues rest

end

namespace AnnotationEntry

/-- An annotation with all its parts. -/
def toValue (entry : AnnotationEntry) : Value :=
  .obj [("type_name", .str entry.typeName), ("arguments", .obj entry.arguments)]

end AnnotationEntry

namespace Declaration

/-- Annotations with all their parts. -/
def entriesValue (entries : List AnnotationEntry) : Value :=
  .arr (entries.map AnnotationEntry.toValue)

/-- A declaration with all its parts. -/
def toValue : Declaration → Value
  | typeDecl d =>
    .obj [("id", .str d.id), ("name", .str d.name), ("qualified_name", d.qualifiedName),
      ("kind", .str d.kind.name), ("package", d.package), ("source_file", d.sourceFile),
      ("annotations", entriesValue d.annotations)]
  | property p =>
    .obj [("id", .str p.id), ("name", .str p.name), ("type", p.type.toValue),
      ("mutable", .bool p.isMutable), ("annotations", entriesValue p.annotations)]
  | function f =>
    .obj [("id", .str f.id), ("name", .str f.name),
      ("return_type", (f.returnType.map TypeRef.toValue).getD .null),
      ("is_constructor", .bool f.isConstructor)]
  | parameter p =>
    .obj [("id", .str p.id), ("name", .str p.name), ("type", p.type.toValue),
      ("has_default", .bool p.hasDefault)]

end Declaration

/-- A node in the open; one without a declaration cannot be shown. -/
def Node.toValue (n : Node) : Except Failure Value := do
  let d ← orFail n.declaration .unshownNode
  pure (.obj [("id", .str n.id), ("kind", .str d.kind.name), ("attrs", d.toValue)])

/-- An edge in the open. -/
def Edge.toValue (e : Edge) : Value :=
  .obj [("src", .str e.source), ("dst", .str e.target), ("type", .str e.kind.name)]

/-- All nodes of a graph with their declarations, and all its edges in reading order. -/
def SymbolGraph.toValue (g : SymbolGraph) : Except Failure Value := do
  let nodes ← g.nodes.mapM Node.toValue
  pure (.obj [("nodes", .arr nodes), ("edges", .arr (g.orderedEdges.map Edge.toValue))])

end KotlinPreferences
