import KotlinPreferences.Declaration
import KotlinPreferences.Failure
import KotlinPreferences.Grouping
import KotlinPreferences.Value.Key

/-!
# Symbol graphs

The declarations of one pass and the edges between them. A node keeps the place at which its id
first came up, also when another declaration takes its place. The edges of a node are read grouped
by the node at their other end, in the order in which the first edge to each was added.

* `Node`, `Edge`, `SymbolGraph`;
* `insert`, `connect`: the two ways in which a graph grows;
* `declaration`: what is declared for an id;
* `typeNamed?`: the type registered under a name, where the last one added wins;
* `edgesFrom`, `edgesTo`, `orderedEdges`: the edges in the order in which they are read;
* `properties`, `functions`, `constructors`, `parameters`: the members of a declaration.
-/

namespace KotlinPreferences

/-- A node: its id and what is declared for it. A node that came up only as the end of an edge has
no declaration. -/
structure Node where
  id : Text
  declaration : Option Declaration

/-- An edge between two nodes, given by their ids. -/
structure Edge where
  source : Text
  target : Text
  kind : EdgeKind
  deriving DecidableEq

/-- A graph of declarations. -/
structure SymbolGraph where
  /-- The nodes, in the order in which their ids first came up. -/
  nodes : List Node := []
  /-- The edges, in the order in which they were added. -/
  edges : List Edge := []
  /-- The ids registered for the names of types, the latest first. -/
  names : List (Key × Text) := []

namespace SymbolGraph

/-- The node of an id. -/
def node? (g : SymbolGraph) (id : Text) : Option Node := g.nodes.find? fun n => n.id == id

/-- Whether an id has come up. -/
def hasNode (g : SymbolGraph) (id : Text) : Bool := (g.node? id).isSome

/-- Whether a value is an id that has come up. -/
def hasNodeOf (g : SymbolGraph) : Value → Bool
  | .str id => g.hasNode id
  | _ => false

/-- The declaration of an id, if there is one. -/
def declaration? (g : SymbolGraph) (id : Text) : Option Declaration :=
  (g.node? id).bind Node.declaration

/-- The declaration of an id. -/
def declaration (g : SymbolGraph) (id : Text) : Except Failure Declaration :=
  match g.node? id with
  | none => .error (.absentNode (.str id))
  | some n => orFail n.declaration .undeclaredNode

/-- The declaration of the id that a value is. -/
def declarationOf (g : SymbolGraph) : Value → Except Failure Declaration
  | .str id => g.declaration id
  | v => .error (if v.key?.isSome then .absentNode v else .unusableKey)

/-- The kind of the node of an id; a node without a declaration has none. -/
def nodeKind (g : SymbolGraph) (id : Text) : Except Failure (Option NodeKind) :=
  match g.node? id with
  | none => .error (.absentNode (.str id))
  | some n => .ok (n.declaration.map Declaration.kind)

/-! ### Growing -/

/-- The nodes with a declaration at the place of its id, or behind all others. -/
def placed (nodes : List Node) (d : Declaration) : List Node :=
  if nodes.any fun n => n.id == d.id then
    nodes.map fun n => if n.id == d.id then ⟨n.id, some d⟩ else n
  else nodes ++ [⟨d.id, some d⟩]

/-- The nodes with an id that has come up. -/
def mentioned (nodes : List Node) (id : Text) : List Node :=
  if nodes.any fun n => n.id == id then nodes else nodes ++ [⟨id, none⟩]

/-- The key under which a declaration is registered; only types are. -/
def nameKey? (d : Declaration) : Option Key := d.qualifiedName?.bind Value.key?

/-- The names with that of a declaration. -/
def registered (names : List (Key × Text)) (d : Declaration) : List (Key × Text) :=
  match nameKey? d with
  | some key => (key, d.id) :: names
  | none => names

/-- The graph with a declaration. It takes the place of an earlier one of the same id, which stays
registered under its name. -/
def insert (g : SymbolGraph) (d : Declaration) : SymbolGraph :=
  { g with nodes := placed g.nodes d, names := registered g.names d }

/-- Whether a declaration can be registered: the name of a type has to be a key. -/
def registrable (d : Declaration) : Except Failure Unit :=
  match d.qualifiedName? with
  | some v => if v.key?.isSome then .ok () else .error .unusableKey
  | none => .ok ()

/-- The graph with an edge; its ends come up with it. -/
def connect (g : SymbolGraph) (e : Edge) : SymbolGraph :=
  { g with
    nodes := mentioned (mentioned g.nodes e.source) e.target
    edges := g.edges ++ [e] }

/-! ### Looking up -/

/-- The declarations of types, in the order of their nodes. -/
def typeDecls (g : SymbolGraph) : List TypeDecl :=
  g.nodes.filterMap fun n => n.declaration.bind Declaration.typeDecl?

/-- What is declared at the node registered for a name. The empty id stands for no node. -/
def typeNamed? (g : SymbolGraph) (key : Key) : Option Declaration :=
  match g.names.lookup key with
  | none => none
  | some id => if id = "" then none else g.declaration? id

/-- What is declared at the node registered for a value. -/
def typeOf (g : SymbolGraph) (name : Value) : Except Failure (Option Declaration) :=
  match name.key? with
  | none => .error .unusableKey
  | some key => .ok (g.typeNamed? key)

/-! ### Edges in reading order -/

/-- The edges out of a node. -/
def edgesFrom (g : SymbolGraph) (id : Text) : List Edge :=
  grouped Edge.target (g.edges.filter fun e => e.source = id)

/-- The edges into a node. -/
def edgesTo (g : SymbolGraph) (id : Text) : List Edge :=
  grouped Edge.source (g.edges.filter fun e => e.target = id)

/-- All edges, by their source in the order of the nodes. -/
def orderedEdges (g : SymbolGraph) : List Edge := g.nodes.flatMap fun n => g.edgesFrom n.id

/-- The declarations at the ends of the edges of one kind out of a node. -/
def targets (g : SymbolGraph) (id : Text) (kind : EdgeKind) : Except Failure (List Declaration) :=
  ((g.edgesFrom id).filter fun e => e.kind = kind).mapM fun e => g.declaration e.target

/-- The declarations at the ends of the edges of one kind into a node. -/
def sources (g : SymbolGraph) (id : Text) (kind : EdgeKind) : Except Failure (List Declaration) :=
  ((g.edgesTo id).filter fun e => e.kind = kind).mapM fun e => g.declaration e.source

/-! ### Members -/

/-- The properties of a declaration. -/
def properties (g : SymbolGraph) (id : Text) : Except Failure (List Declaration) :=
  g.targets id .hasProperty

/-- The functions and constructors of a declaration. -/
def callables (g : SymbolGraph) (id : Text) : Except Failure (List Function) := do
  let ds ← g.targets id .hasFunction
  ds.mapM fun d => orFail d.function? .wrongShape

/-- The functions of a declaration. -/
def functions (g : SymbolGraph) (id : Text) : Except Failure (List Function) := do
  let fs ← g.callables id
  pure (fs.filter fun f => !f.isConstructor)

/-- The constructors of a declaration. -/
def constructors (g : SymbolGraph) (id : Text) : Except Failure (List Function) := do
  let fs ← g.callables id
  pure (fs.filter Function.isConstructor)

/-- The parameters of a function. -/
def parameters (g : SymbolGraph) (id : Text) : Except Failure (List Declaration) :=
  g.sources id .paramOf

/-- The first function of a declaration with a name. -/
def functionNamed (g : SymbolGraph) (d : Declaration) (name : Text) :
    Except Failure Function := do
  let fs ← g.functions d.id
  match fs.find? fun f => f.name == name with
  | some f => pure f
  | none =>
    let qualifiedName ← orFail d.qualifiedName? .wrongShape
    throw (.absentFunction qualifiedName name)

/-- The types with an annotation of a type. -/
def annotated (g : SymbolGraph) (typeName : Text) : List TypeDecl :=
  g.typeDecls.filter fun d => (entryOf? d.annotations typeName).isSome

end SymbolGraph

end KotlinPreferences
