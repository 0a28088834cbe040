import KotlinPreferences.Search
import KotlinPreferences.SymbolGraph
import KotlinPreferences.Value.Display
import KotlinPreferences.Vocabulary

/-!
# Supertypes and assignability

* `SymbolGraph.supertypeIds`, `SymbolGraph.supertypes`: the proper supertypes of a type;
* `SymbolGraph.supertypeNames`: their names in order;
* `SymbolGraph.isAssignable`: whether a value of one type may stand where another is expected.
-/

namespace KotlinPreferences

namespace SymbolGraph

/-- The ids of the direct supertypes of a node. -/
def directSupertypeIds (g : SymbolGraph) (id : Text) : List Text :=
  (g.edges.filter fun e => e.source = id && e.kind.isSupertype).map Edge.target

/-- The ids of the supertypes of a node, direct or not, other than the node itself. -/
def supertypeIds (g : SymbolGraph) (id : Text) : List Text :=
  (search g.directSupertypeIds (g.nodes.map Node.id) (g.directSupertypeIds id) [id]).filter
    fun other => other ≠ id

/-- The name of the type declared at a node, which has to be a key. -/
def nameAt (g : SymbolGraph) (id : Text) : Except Failure Value := do
  let d ← g.declaration id
  let name ← orFail d.qualifiedName? .wrongShape
  if name.key?.isSome then pure name else throw .unusableKey

/-- The qualified names of the supertypes of a node. -/
def supertypes (g : SymbolGraph) (id : Text) : Except Failure (List Value) :=
  (g.supertypeIds id).mapM g.nameAt

/-- The qualified names of the supertypes of a node, each once, in the order of their texts. -/
def supertypeNames (g : SymbolGraph) (id : Text) : Except Failure (List Value) := do
  let names ← g.supertypes id
  pure ((distinctOn Value.key? names).mergeSort fun a b => decide (a.text ≤ b.text))

/-- Whether a value of the type `source` may stand where the type `target` is expected. Edges to
supertypes carry no type arguments, so a target with arguments needs a source with the same. -/
def isAssignable (g : SymbolGraph) (target source : TypeRef) : Except Failure Bool :=
  if source.nullable && !target.nullable then pure false
  else if target.name = Vocabulary.anyType then pure true
  else if source.name = target.name then
    pure (target.arguments.isEmpty || target.arguments == source.arguments)
  else if !target.arguments.isEmpty && target.arguments != source.arguments then pure false
  else
    match g.typeNamed? (.str source.name) with
    | none => pure false
    | some d => do
      let names ← g.supertypes d.id
      pure (names.any fun name => name.key? == some (.str target.name))

end SymbolGraph

end KotlinPreferences
