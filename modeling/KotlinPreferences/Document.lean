import KotlinPreferences.Document.Attributes
import KotlinPreferences.Document.Builtins

/-!
# Reading documents

A document is an object with a list of nodes and a list of edges. It is read into a symbol graph:
first its nodes, then the built-in declarations, then its edges. Reading stops at the first thing
that is wrong.

* `Document.parts`: the two lists of a document;
* `Document.addNode`, `Document.addEdge`: the graph with one more node or edge of the document;
* `Document.read`: the graph of a document;
* `Document.declare`: a graph with one more declaration that comes from no document.
-/

namespace KotlinPreferences.Document

/-- A list of a document; a missing one is empty. -/
def part (members : Value.Members) (name : Text) : Except Malformed (List Value) :=
  match (Value.member? members name).getD (.arr []) with
  | .arr items => .ok items
  | _ => .error .partsNotLists

/-- The nodes and the edges of a document. -/
def parts : Value → Except Malformed (List Value × List Value)
  | .obj members => do
    let nodes ← part members "nodes"
    let edges ← part members "edges"
    pure (nodes, edges)
  | _ => .error .notDocument

/-- The kind that a node names; a list or an object names none, not even an unknown one. -/
def nodeKind (id : Text) (v : Value) : Except Failure NodeKind :=
  match v with
  | .str s => orFail (NodeKind.ofName? s) (.malformed (.nodeKind id v))
  | _ => .error (if v.key?.isSome then .malformed (.nodeKind id v) else .unusableKey)

/-- The id of a node, which has to be new to the graph. -/
def freshId (g : SymbolGraph) (node : Value) (members : Value.Members) :
    Except Malformed Text :=
  match Value.member members "id" with
  | .str id =>
    if id = "" then .error (.nodeWithoutId node)
    else if g.hasNode id then .error (.duplicateId id)
    else .ok id
  | _ => .error (.nodeWithoutId node)

/-- The declaration of a node of a document. -/
def nodeDeclaration (g : SymbolGraph) (node : Value) : Except Failure Declaration :=
  match node with
  | .obj members => do
    let id ← lift (freshId g node members)
    let kind ← nodeKind id (Value.member members "kind")
    declaration kind id (Value.member members "attrs")
  | _ => .error (.malformed (.notNode node))

/-- The graph with one more node of the document. -/
def addNode (g : SymbolGraph) (node : Value) : Except Failure SymbolGraph := do
  let d ← nodeDeclaration g node
  SymbolGraph.registrable d
  pure (g.insert d)

/-- The kind of a declaration that is added to a graph without a document. -/
def givenKind (v : Value) : Except Failure NodeKind :=
  match v with
  | .str s => orFail (NodeKind.ofName? s) (.unknownKind v)
  | _ => .error (.unknownKind v)

/-- The graph after a declaration of some kind and attributes was added to it without a document.
A type whose name is no key is added all the same, but under no name. -/
def declare (g : SymbolGraph) (kind : Value) (id : Text) (attrs : Value) :
    SymbolGraph × Except Failure Unit :=
  match givenKind kind >>= fun kind => declaration kind id attrs with
  | .error failure => (g, .error failure)
  | .ok d => (g.insert d, SymbolGraph.registrable d)

/-- The kind that an edge names; a list or an object names none, not even an unknown one. -/
def edgeKind (v : Value) : Except Failure EdgeKind :=
  match v with
  | .str s => orFail (EdgeKind.ofName? s) (.malformed (.edgeType v))
  | _ => .error (if v.key?.isSome then .malformed (.edgeType v) else .unusableKey)

/-- An edge between two nodes of a graph, whose kinds have to fit the kind of the edge. -/
def joined (g : SymbolGraph) (kind : EdgeKind) (source target : Value) :
    Except Failure Edge :=
  match source, target with
  | .str s, .str t =>
    if g.hasNode s && g.hasNode t then
      let found := ((g.declaration? s).map Declaration.kind, (g.declaration? t).map Declaration.kind)
      match kind.ends? with
      | some expected =>
        if found = (some expected.1, some expected.2) then .ok ⟨s, t, kind⟩
        else .error (.malformed (.wrongEnds kind expected source target))
      | none => .ok ⟨s, t, kind⟩
    else .error (.malformed (.unknownEnd kind source target))
  | _, _ => .error (.malformed (.unknownEnd kind source target))

/-- The edge that a value of a document gives. -/
def edge (g : SymbolGraph) (v : Value) : Except Failure Edge :=
  match v with
  | .obj members => do
    let kind ← edgeKind (Value.member members "type")
    joined g kind (Value.member members "src") (Value.member members "dst")
  | _ => .error (.malformed (.notEdge v))

/-- The graph with one more edge of the document. -/
def addEdge (g : SymbolGraph) (v : Value) : Except Failure SymbolGraph := do
  let e ← edge g v
  pure (g.connect e)

/-- The graph of a document. -/
def read (v : Value) : Except Failure SymbolGraph := do
  let (nodes, edges) ← lift (parts v)
  let g ← nodes.foldlM addNode {}
  edges.foldlM addEdge g.withBuiltins

end KotlinPreferences.Document
