import KotlinPreferences.Proofs.Document.Comparison
import KotlinPreferences.Proofs.SymbolGraph.ReadingOrder
import KotlinPreferences.SymbolGraph.DebugView

/-!
# What is shown of a document

The view of a graph shows the nodes of the document in their order, and behind them the built-in
declarations that came up; and it shows every edge of the document as often as it is there, with those
that the built-in converter brings.

* `WellFormed.nodes_withBuiltins`: the nodes of the built-in declarations;
* `SymbolGraph.view`: a document with some declarations and edges, as they are shown;
* `Document.leavesFree`, `Document.builtins`: the built-in declarations that come up with a document;
* `Document.builtinEdges`: the edges that come with them;
* `Document.contents_of_read`: what the graph of an accepted document holds;
* `Document.toValue_of_read`: what is shown of it.
-/

namespace KotlinPreferences

namespace Builtin

/-- The built-in types, in the order in which they come up. -/
def types : List (Text × TypeKind) :=
  [(Vocabulary.anyType, .classType), (Vocabulary.stringType, .classType),
    (Vocabulary.converterInterface, .interface), (Vocabulary.stringConverter, .classType)]

end Builtin

namespace Declaration

/-- The node at which a declaration stands. -/
def node (d : Declaration) : Node := ⟨d.id, some d⟩

/-- What is shown of a declaration. -/
def shown (d : Declaration) : Value :=
  .obj [("id", .str d.id), ("kind", .str d.kind.name), ("attrs", d.toValue)]

theorem toValue_node (d : Declaration) : d.node.toValue = .ok d.shown := rfl

end Declaration

namespace SymbolGraph

variable {g : SymbolGraph}

/-! ### Nodes of the built-in declarations -/

theorem nodes_withType (g : SymbolGraph) (q : Text) (kind : TypeKind) :
    (g.withType q kind).nodes =
      g.nodes ++ if g.lacks q then [(Declaration.typeDecl (Builtin.typeDecl q kind)).node] else [] := by
  unfold withType
  split
  · rename_i hlacks
    rw [lacks, Bool.and_eq_true, Bool.not_eq_true'] at hlacks
    exact nodes_insert_of_new hlacks.2
  · rw [List.append_nil]

/-- Each built-in type that is lacking comes up. -/
theorem WellFormed.nodes_withTypes (h : g.WellFormed) :
    (g.withPlainTypes.withType Vocabulary.stringConverter .classType).nodes =
      g.nodes ++ (Builtin.types.filter fun t => g.lacks t.1).map fun t =>
        (Declaration.typeDecl (Builtin.typeDecl t.1 t.2)).node := by
  rw [nodes_withType, h.lacks_withPlainTypes, SymbolGraph.withPlainTypes, nodes_withType,
    h.lacks_converterInterface, nodes_withType, h.lacks_stringType, nodes_withType]
  simp only [Builtin.types, List.filter_cons, List.filter_nil]
  cases g.lacks Vocabulary.anyType <;> cases g.lacks Vocabulary.stringType <;>
    cases g.lacks Vocabulary.converterInterface <;> cases g.lacks Vocabulary.stringConverter <;>
    simp

theorem nodes_withConverterFunction {name : Text} (hsc : g.HasStringConverter)
    (hf : g.hasNode (Builtin.functionId name) = false)
    (hp : g.hasNode (Builtin.parameterId name) = false) :
    (g.withConverterFunction name).nodes = g.nodes ++
      [(Builtin.converterFunction name).node, (Builtin.converterParameter name).node] := by
  unfold withConverterFunction
  rw [nodes_connect, nodes_insert_of_new, nodes_connect, nodes_insert_of_new hf, List.append_assoc]
  · rfl
  · simp [hasNode_insert, hsc.hasNode]
  · simp [hasNode_insert, Declaration.id]
  · simp [hasNode_insert, hasNode_connect, Declaration.id, hp, Builtin.parameterId_ne_functionId,
      Builtin.parameterId_ne_typeId]
  · simp [hasNode_insert, Declaration.id]
  · simp [hasNode_insert, hasNode_connect]

theorem WellFormed.nodes_withConverterInterface (h : g.WellFormed) (hsc : g.HasStringConverter) :
    g.withConverterInterface.nodes = g.nodes := by
  unfold SymbolGraph.withConverterInterface
  split
  · rename_i d hd
    exact nodes_connect hsc.hasNode
      (hasNode_of_declaration? (declaration?_of_typeNamed? h.declared hd))
  · rfl

theorem WellFormed.nodes_withConverterFunctions (h : g.WellFormed) (hsc : g.HasStringConverter)
    (hfree : g.ReservedFree) :
    ((g.withConverterFunction "parse").withConverterFunction "format").nodes =
      g.nodes ++ Builtin.reserved.map Declaration.node := by
  have hparse := (h.withParseFunction hsc hfree).declared
  have hf := h.declared.hasNode_eq_false
    (hfree (Builtin.functionId "parse") (by simp [Builtin.reservedIds]))
  have hp := h.declared.hasNode_eq_false
    (hfree (Builtin.parameterId "parse") (by simp [Builtin.reservedIds]))
  rw [nodes_withConverterFunction (hsc.withConverterFunction _)
      (hparse.hasNode_eq_false (hfree.declaration?_format (.inl rfl)))
      (hparse.hasNode_eq_false (hfree.declaration?_format (.inr rfl))),
    nodes_withConverterFunction hsc hf hp, List.append_assoc]
  rfl

/-- The functions of the converter and their parameters come up behind the built-in types, and only
with the converter. -/
theorem WellFormed.nodes_withBuiltins (h : g.WellFormed) (hfree : g.ReservedFree) :
    g.withBuiltins.nodes =
      (g.withPlainTypes.withType Vocabulary.stringConverter .classType).nodes ++
        if g.lacks Vocabulary.stringConverter then Builtin.reserved.map Declaration.node else [] := by
  rw [withBuiltins_eq, SymbolGraph.withStringConverter, h.lacks_withPlainTypes]
  split
  · rename_i hlacks
    have hsc := hasStringConverter_withType (h.lacks_withPlainTypes.trans hlacks)
    have hwf := h.withPlainTypes.withType Vocabulary.stringConverter .classType
    have hfree' := hfree.withPlainTypes.withType Vocabulary.stringConverter .classType
    rw [(hwf.withConverterInterface hsc).nodes_withConverterFunctions hsc.withConverterInterface
        hfree'.withConverterInterface, hwf.nodes_withConverterInterface hsc]
  · rename_i hlacks
    rw [nodes_withType, h.lacks_withPlainTypes, if_neg hlacks, List.append_nil, List.append_nil]

/-- The functions of the converter and their parameters are no types, so they leave all names
alone. -/
theorem WellFormed.typeNamed?_withBuiltins (h : g.WellFormed) (hfree : g.ReservedFree) (key : Key) :
    g.withBuiltins.typeNamed? key =
      (g.withPlainTypes.withType Vocabulary.stringConverter .classType).typeNamed? key := by
  have hbuiltins := h.withBuiltins hfree
  have htypes := h.withPlainTypes.withType Vocabulary.stringConverter .classType
  have hsame : g.withBuiltins.typeDecls =
      (g.withPlainTypes.withType Vocabulary.stringConverter .classType).typeDecls := by
    have hreserved : (Builtin.reserved.map Declaration.node).filterMap
        (fun n => n.declaration.bind Declaration.typeDecl?) = [] := rfl
    rw [typeDecls, h.nodes_withBuiltins hfree, List.filterMap_append]
    split
    · rw [hreserved, List.append_nil, typeDecls]
    · rw [List.filterMap_nil, List.append_nil, typeDecls]
  rw [typeNamed?_eq_find? hbuiltins.declared hbuiltins.indexed,
    typeNamed?_eq_find? htypes.declared htypes.indexed, hsame]

/-! ### What is shown -/

/-- A document with some declarations and edges, as they are shown. -/
def view (ds : List Declaration) (es : List Edge) : Value :=
  .obj [("nodes", .arr (ds.map Declaration.shown)), ("edges", .arr (es.map Edge.toValue))]

theorem toValue_of_nodes {ds : List Declaration} (hnodes : g.nodes = ds.map Declaration.node) :
    g.toValue = .ok (view ds g.orderedEdges) := by
  have hshown : g.nodes.mapM Node.toValue = .ok (ds.map Declaration.shown) := by
    rw [hnodes, List.mapM_map]
    exact mapM_eq_map fun d _ => d.toValue_node
  rw [SymbolGraph.toValue, hshown]
  rfl

theorem ids_of_nodes {ds : List Declaration} (hnodes : g.nodes = ds.map Declaration.node) :
    g.nodes.map Node.id = ds.map Declaration.id := by
  rw [hnodes, List.map_map]
  rfl

end SymbolGraph

namespace Document

open SymbolGraph

variable {g : SymbolGraph} {v : Value} {ds : List Declaration} {es : List Edge}

/-- None of some declarations takes the id or the name of a built-in type. -/
def leavesFree (ds : List Declaration) (q : Text) : Bool :=
  ds.all fun d => d.id != Builtin.typeId q && nameKey? d != some (.str q)

/-- The built-in declarations that come up with some declarations: the types that are left free, and
with the converter its functions and their parameters. -/
def builtins (ds : List Declaration) : List Declaration :=
  (Builtin.types.filter fun t => leavesFree ds t.1).map
      (fun t => .typeDecl (Builtin.typeDecl t.1 t.2)) ++
    if leavesFree ds Vocabulary.stringConverter then Builtin.reserved else []

theorem leavesFree_iff {q : Text} : leavesFree ds q = true ↔
    ∀ d ∈ ds, d.id ≠ Builtin.typeId q ∧ nameKey? d ≠ some (.str q) := by
  simp [leavesFree]

theorem Together.lacks_eq (h : Together ds) (q : Text) :
    (ofDeclarations ds).lacks q = leavesFree ds q := by
  rw [Bool.eq_iff_iff, h.wellFormed.lacks_iff, leavesFree_iff]
  simp only [h.declaration?_iff]
  constructor
  · rintro ⟨hnames, hid⟩ d hd
    constructor
    · intro htaken
      rw [← htaken, h.declaration?_iff.2 ⟨hd, rfl⟩] at hid
      cases hid
    · intro hkey
      obtain ⟨t, rfl, hq⟩ := nameKey?_eq_str_iff.1 hkey
      exact hnames t.id t ⟨hd, rfl⟩ hq
  · intro hfree
    constructor
    · rintro id t ⟨ht, -⟩ hq
      exact (hfree _ ht).2 (nameKey?_eq_str_iff.2 ⟨t, rfl, hq⟩)
    · by_contra hsome
      obtain ⟨d, hd⟩ := Option.ne_none_iff_exists'.1 hsome
      obtain ⟨hmem, hid⟩ := h.declaration?_iff.1 hd
      exact (hfree d hmem).1 hid

/-- The built-in declarations stand behind those of the document. -/
theorem Together.nodes_base (h : Together ds) (hfree : (ofDeclarations ds).ReservedFree) :
    (base ds).nodes = (ds ++ builtins ds).map Declaration.node := by
  rw [base, h.wellFormed.nodes_withBuiltins hfree, h.wellFormed.nodes_withTypes,
    nodes_ofDeclarations h.nodup]
  simp only [h.lacks_eq, builtins, List.map_append, List.map_map, List.append_assoc]
  split <;> rfl

/-- The edges that come with the built-in declarations: those of the converter, where it is left
free. The first of them leads to the interface of converters, and is missing where that name leads
nowhere. -/
def builtinEdges (g : SymbolGraph) (ds : List Declaration) : List Edge :=
  if leavesFree ds Vocabulary.stringConverter then
    ((g.typeNamed? (.str Vocabulary.converterInterface)).map fun d =>
      ⟨Builtin.typeId Vocabulary.stringConverter, d.id, .implements⟩).toList ++
      Builtin.converterEdges
  else []

theorem Together.edges_base_eq (h : Together ds) (hfree : (ofDeclarations ds).ReservedFree) :
    (base ds).edges = builtinEdges (base ds) ds := by
  rw [base, h.wellFormed.edges_withBuiltins h.edges, h.lacks_eq, builtinEdges, interfaceEdge?,
    h.wellFormed.typeNamed?_withBuiltins hfree]

theorem typeNamed?_foldl_connect (es : List Edge) (g : SymbolGraph) (key : Key) :
    (es.foldl SymbolGraph.connect g).typeNamed? key = g.typeNamed? key := by
  simp only [typeNamed?, names_foldl_connect, declaration?_foldl_connect]

/-! ### Accepted documents -/

/-- What the nodes and the edges of an accepted document give is what the graph holds, next to what
is built-in. -/
theorem contents_of_read (h : read v = .ok g) (havoids : avoidsReserved v = true) :
    ∃ nodes edges ds es, parts v = .ok (nodes, edges) ∧ List.Forall₂ Gives nodes ds ∧
      List.Forall₂ Says edges es ∧ g.nodes = (ds ++ builtins ds).map Declaration.node ∧
      g.edges = builtinEdges g ds ++ es := by
  obtain ⟨nodes, edges, ds, es, hparts, hgiven, hnodup, hes, rfl⟩ := read_eq_ok_iff.1 h
  have htogether := together hgiven hnodup
  have hfree : (ofDeclarations ds).ReservedFree := by
    refine (nodesRead_ofDeclarations hgiven hnodup).reservedFree ?_
    rwa [avoidsReserved, nodesOf, hparts, List.all_eq_true] at havoids
  refine ⟨nodes, edges, ds, es, hparts, ?_, ?_, ?_, ?_⟩
  · exact (mapM_eq_ok_iff.1 hgiven).imp fun _ _ hd => (given_eq_ok_iff.1 hd).1
  · exact (mapM_eq_ok_iff.1 hes).imp fun _ _ he => (edge_eq_ok_iff.1 he).1
  · rw [nodes_of_edges (foldlM_addEdge_eq_ok_iff.2 ⟨es, hes, rfl⟩), htogether.nodes_base hfree]
  · rw [edges_foldl_connect, htogether.edges_base_eq hfree, builtinEdges, builtinEdges,
      typeNamed?_foldl_connect]

/-- The built-in converter comes with four edges of its own, and with a fifth one where the interface
of converters has a name. -/
theorem length_builtinEdges (g : SymbolGraph) (ds : List Declaration) :
    (builtinEdges g ds).length =
      if leavesFree ds Vocabulary.stringConverter then
        if (g.typeNamed? (.str Vocabulary.converterInterface)).isSome then 5 else 4
      else 0 := by
  unfold builtinEdges
  split
  · cases g.typeNamed? (.str Vocabulary.converterInterface) <;> rfl
  · rfl

/-- **What is shown of an accepted document.** The nodes of the document are shown in their order, and
behind them the built-in declarations whose names and ids it leaves free, each id once. The edges are
those of the document, each as often as it is there, and those of the built-in converter; and they
are shown in reading order, where the edges of the converter come before those of the document. -/
theorem toValue_of_read (h : read v = .ok g) (havoids : avoidsReserved v = true) :
    ∃ nodes edges ds es shown, parts v = .ok (nodes, edges) ∧ List.Forall₂ Gives nodes ds ∧
      List.Forall₂ Says edges es ∧
      g.toValue = .ok (view (ds ++ builtins ds) shown) ∧
      ((ds ++ builtins ds).map Declaration.id).Nodup ∧
      InReadingOrder ((ds ++ builtins ds).map Declaration.id) (builtinEdges g ds ++ es) shown ∧
      (builtinEdges g ds).length =
        if leavesFree ds Vocabulary.stringConverter then
          if (g.typeNamed? (.str Vocabulary.converterInterface)).isSome then 5 else 4
        else 0 := by
  obtain ⟨nodes, edges, ds, es, hparts, hgives, hsays, hnodes, hedges⟩ := contents_of_read h havoids
  have hnodup := (read_sound h).declared.nodup
  have hordered := (read_closed h).inReadingOrder hnodup
  rw [ids_of_nodes hnodes] at hnodup hordered
  rw [hedges] at hordered
  exact ⟨nodes, edges, ds, es, g.orderedEdges, hparts, hgives, hsays, toValue_of_nodes hnodes, hnodup,
    hordered, length_builtinEdges g ds⟩

/-- How many nodes and edges are shown in a view. -/
def sizes : Value → Nat × Nat
  | .obj [(_, .arr nodes), (_, .arr edges)] => (nodes.length, edges.length)
  | _ => (0, 0)

/-- The sample is shown with all that is built-in, for it leaves all names and ids free: eight
declarations behind its own seven, and five edges in front of its own five. -/
theorem toValue_of_sample : read Sample.document = .ok Sample.graph ∧
    avoidsReserved Sample.document = true ∧
    ∃ (ds : List Declaration) (es shown : List Edge),
      Sample.graph.toValue = .ok (view (ds ++ builtins ds) shown) ∧
      ds.length = 7 ∧ (builtins ds).length = 8 ∧
      es.length = 5 ∧ shown.Perm (builtinEdges Sample.graph ds ++ es) ∧
      (builtinEdges Sample.graph ds).length = 5 := by
  have havoids : avoidsReserved Sample.document = true := by decide +kernel
  obtain ⟨nodes, edges, ds, es, shown, hparts, hgives, hsays, hview, -, hordered, -⟩ :=
    toValue_of_read Sample.read_document havoids
  cases hparts
  have hds : 7 = ds.length := hgives.length_eq
  have hes : 5 = es.length := hsays.length_eq
  have hsizes : Sample.graph.toValue.toOption.map sizes = some (15, 10) := by decide +kernel
  have hperm := hordered.perm.length_eq
  simp only [hview, Except.toOption, Option.map_some, view, sizes, List.length_map, List.length_append,
    Option.some.injEq, Prod.mk.injEq] at hsizes hperm
  exact ⟨Sample.read_document, havoids, ds, es, shown, hview, hds.symm, by omega, hes.symm,
    hordered.perm, by omega⟩

end Document

end KotlinPreferences
