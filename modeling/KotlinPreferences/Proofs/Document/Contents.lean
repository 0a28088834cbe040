import KotlinPreferences.Proofs.Document.Reserved

/-!
# What a document contains

The graph of a document, put together from what its nodes and its edges give each for itself. No node
needs to be looked at together with another one but for its id, and no edge needs another edge.

* `Document.given`, `given_eq_ok_iff`, `addNode_eq_ok_iff`: what a node gives, apart from whether its
  id is new;
* `Document.base`: the graph of some declarations, with the built-in ones;
* `declaration?_iff_of_nodes`: what is declared in a graph with some declarations as its nodes;
* `Document.Together`: what the declarations of a document are together;
* `edge_congr`: an edge depends on what stands at its ends only;
* `read_eq_ok_iff`: the documents that are accepted, and their graphs;
* `edges_foldl_connect`, `names_foldl_connect`, `declaration?_foldl_connect`: what edges add to it.
-/

namespace KotlinPreferences.Document

open SymbolGraph

variable {g g' : SymbolGraph} {v node : Value} {nodes edges : List Value}
  {ds : List Declaration} {es : List Edge}

/-! ### Nodes -/

/-- The declaration that a node gives, whatever other nodes there are. -/
def given (node : Value) : Except Failure Declaration := do
  let d ← nodeDeclaration {} node
  registrable d
  pure d

/-- A node is accepted for itself if its id is not empty and what it gives can be registered. -/
theorem given_eq_ok_iff {d : Declaration} : given node = .ok d ↔
    Gives node d ∧ d.id ≠ "" ∧ registrable d = .ok () := by
  simp only [given, bind_eq_ok_iff, nodeDeclaration_eq_ok_iff, pure_eq_ok, Except.ok.injEq]
  constructor
  · rintro ⟨_, ⟨hgives, hne, -⟩, ⟨⟩, hregistrable, rfl⟩
    exact ⟨hgives, hne, hregistrable⟩
  · rintro ⟨hgives, hne, hregistrable⟩
    exact ⟨d, ⟨hgives, hne, rfl⟩, (), hregistrable, rfl⟩

/-- A node is accepted if it gives a declaration whose id is new. -/
theorem addNode_eq_ok_iff : addNode g node = .ok g' ↔
    ∃ d, given node = .ok d ∧ g.hasNode d.id = false ∧ g' = g.insert d := by
  constructor
  · intro h
    obtain ⟨d, hgives, hnew, hne, hregistrable, rfl⟩ := addNode_cases h
    exact ⟨d, given_eq_ok_iff.2 ⟨hgives, hne, hregistrable⟩, hnew, rfl⟩
  · rintro ⟨d, hgiven, hnew, rfl⟩
    obtain ⟨hgives, hne, hregistrable⟩ := given_eq_ok_iff.1 hgiven
    rw [addNode, nodeDeclaration_eq_ok_iff.2 ⟨hgives, hne, hnew⟩, ok_bind, hregistrable, ok_bind,
      pure_eq_ok]

/-- The nodes of a document are accepted if each gives a declaration, under ids of their own. -/
theorem foldlM_addNode_eq_ok_iff : nodes.foldlM addNode g = .ok g' ↔
    ∃ ds, nodes.mapM given = .ok ds ∧ (ds.map Declaration.id).Nodup ∧
      (∀ d ∈ ds, g.hasNode d.id = false) ∧ g' = ds.foldl SymbolGraph.insert g := by
  induction nodes generalizing g with
  | nil =>
    constructor
    · intro h
      cases h
      exact ⟨[], rfl, List.nodup_nil, by simp, rfl⟩
    · rintro ⟨ds, hds, -, -, rfl⟩
      cases hds
      rfl
  | cons node rest ih =>
    simp only [List.foldlM_cons, List.mapM_cons, bind_eq_ok_iff, addNode_eq_ok_iff, ih, pure_eq_ok,
      Except.ok.injEq]
    constructor
    · rintro ⟨_, ⟨d, hd, hnew, rfl⟩, ds, hds, hnodup, hfresh, rfl⟩
      have hapart : ∀ other ∈ ds, other.id ≠ d.id ∧ g.hasNode other.id = false := by
        intro other hother
        simpa [hasNode_insert] using hfresh other hother
      refine ⟨d :: ds, ⟨d, hd, ds, hds, rfl⟩, ?_, ?_, rfl⟩
      · rw [List.map_cons, List.nodup_cons]
        refine ⟨fun hmem => ?_, hnodup⟩
        obtain ⟨other, hother, hid⟩ := List.mem_map.1 hmem
        exact (hapart other hother).1 hid
      · exact List.forall_mem_cons.2 ⟨hnew, fun other hother => (hapart other hother).2⟩
    · rintro ⟨_, ⟨d, hd, ds, hds, rfl⟩, hnodup, hfresh, rfl⟩
      obtain ⟨hnew, hfresh⟩ := List.forall_mem_cons.1 hfresh
      rw [List.map_cons, List.nodup_cons] at hnodup
      refine ⟨_, ⟨d, hd, hnew, rfl⟩, ds, hds, hnodup.2, fun other hother => ?_, rfl⟩
      have hne : other.id ≠ d.id := fun hid => hnodup.1 (hid ▸ List.mem_map_of_mem hother)
      simp [hasNode_insert, hne, hfresh other hother]

/-! ### Declarations -/

/-- The graph of some declarations. -/
def ofDeclarations (ds : List Declaration) : SymbolGraph := ds.foldl SymbolGraph.insert {}

/-- The graph of some declarations, with the built-in ones. -/
def base (ds : List Declaration) : SymbolGraph := (ofDeclarations ds).withBuiltins

/-- What nodes give is declared under ids of their own, and nothing else is. -/
theorem nodesRead_ofDeclarations (hgiven : nodes.mapM given = .ok ds)
    (hnodup : (ds.map Declaration.id).Nodup) : NodesRead nodes (ofDeclarations ds) :=
  nodesRead (foldlM_addNode_eq_ok_iff.2 ⟨ds, hgiven, hnodup, fun _ _ => rfl, rfl⟩)

theorem nodes_foldl_insert (hnodup : (ds.map Declaration.id).Nodup)
    (hfresh : ∀ d ∈ ds, g.hasNode d.id = false) :
    (ds.foldl SymbolGraph.insert g).nodes = g.nodes ++ ds.map fun d => ⟨d.id, some d⟩ := by
  induction ds generalizing g with
  | nil => simp
  | cons d rest ih =>
    rw [List.map_cons, List.nodup_cons] at hnodup
    obtain ⟨hnew, hfresh⟩ := List.forall_mem_cons.1 hfresh
    have hrest : ∀ other ∈ rest, (g.insert d).hasNode other.id = false := by
      intro other hother
      have hne : other.id ≠ d.id := fun hid => hnodup.1 (hid ▸ List.mem_map_of_mem hother)
      simp [hasNode_insert, hne, hfresh other hother]
    rw [List.foldl_cons, ih hnodup.2 hrest, nodes_insert_of_new hnew, List.append_assoc]
    rfl

theorem nodes_ofDeclarations (hnodup : (ds.map Declaration.id).Nodup) :
    (ofDeclarations ds).nodes = ds.map fun d => ⟨d.id, some d⟩ :=
  nodes_foldl_insert hnodup fun _ _ => rfl

/-- What is declared in a graph with some declarations as its nodes. -/
theorem declaration?_iff_of_nodes (hdeclared : g.Declared)
    (hnodes : g.nodes = ds.map fun d => ⟨d.id, some d⟩) {id : Text} {d : Declaration} :
    g.declaration? id = some d ↔ d ∈ ds ∧ d.id = id := by
  constructor
  · intro hd
    obtain ⟨n, hn, hd⟩ := Option.bind_eq_some_iff.1 hd
    have hmem := mem_of_node? hn
    rw [hnodes, List.mem_map] at hmem
    obtain ⟨d', hd', rfl⟩ := hmem
    cases hd
    exact ⟨hd', id_of_node? hn⟩
  · rintro ⟨hmem, rfl⟩
    have hnode : (⟨d.id, some d⟩ : Node) ∈ g.nodes := hnodes ▸ List.mem_map_of_mem hmem
    exact hdeclared.declaration?_of_mem hnode

/-- What some declarations are together. -/
structure Together (ds : List Declaration) : Prop where
  wellFormed : (ofDeclarations ds).WellFormed
  edges : (ofDeclarations ds).edges = []
  nodup : (ds.map Declaration.id).Nodup

theorem together (hgiven : nodes.mapM given = .ok ds) (hnodup : (ds.map Declaration.id).Nodup) :
    Together ds :=
  have hread := nodesRead_ofDeclarations hgiven hnodup
  ⟨hread.wellFormed, hread.edges, hnodup⟩

theorem Together.declaration?_iff (h : Together ds) {id : Text} {d : Declaration} :
    (ofDeclarations ds).declaration? id = some d ↔ d ∈ ds ∧ d.id = id :=
  declaration?_iff_of_nodes h.wellFormed.declared (nodes_ofDeclarations h.nodup)

theorem Together.sound_base (h : Together ds) : (base ds).Sound :=
  Sound.withBuiltins h.wellFormed h.edges

/-! ### Edges -/

/-- An edge depends on what stands at its ends only. -/
theorem edge_congr (hnode : ∀ id, g.hasNode id = g'.hasNode id)
    (hdecl : ∀ id, g.declaration? id = g'.declaration? id) : edge g = edge g' := by
  funext v
  have hjoined : ∀ kind source target, joined g kind source target = joined g' kind source target := by
    intro kind source target
    cases source <;> cases target <;> simp only [joined, hnode, hdecl]
  cases v <;> simp only [edge, hjoined]

theorem hasNode_connect_of_fits {e : Edge} (h : g.Fits e) (id : Text) :
    (g.connect e).hasNode id = g.hasNode id := by
  rw [hasNode, node?, nodes_connect h.hasNode_source h.hasNode_target]
  rfl

/-- The edges of a document are accepted if each of them is. -/
theorem foldlM_addEdge_eq_ok_iff : edges.foldlM addEdge g = .ok g' ↔
    ∃ es, edges.mapM (edge g) = .ok es ∧ g' = es.foldl SymbolGraph.connect g := by
  induction edges generalizing g with
  | nil =>
    constructor
    · intro h
      cases h
      exact ⟨[], rfl, rfl⟩
    · rintro ⟨es, hes, rfl⟩
      cases hes
      rfl
  | cons v rest ih =>
    simp only [List.foldlM_cons, List.mapM_cons, bind_eq_ok_iff, ih, pure_eq_ok, Except.ok.injEq]
    have hsame : ∀ {e : Edge}, g.Fits e → edge (g.connect e) = edge g := fun h =>
      edge_congr (hasNode_connect_of_fits h) fun _ => declaration?_connect
    constructor
    · rintro ⟨g₁, hadd, es, hes, rfl⟩
      obtain ⟨e, he, hfit, rfl⟩ := addEdge_cases hadd
      exact ⟨e :: es, ⟨e, he, es, hsame hfit ▸ hes, rfl⟩, rfl⟩
    · rintro ⟨_, ⟨e, he, es, hes, rfl⟩, rfl⟩
      have hadd : addEdge g v = .ok (g.connect e) := by rw [addEdge, he]; rfl
      obtain ⟨e', he', hfit, -⟩ := addEdge_cases hadd
      rw [he, Except.ok.injEq] at he'
      subst he'
      exact ⟨g.connect e, hadd, es, (hsame hfit).symm ▸ hes, rfl⟩

theorem edges_foldl_connect (es : List Edge) (g : SymbolGraph) :
    (es.foldl SymbolGraph.connect g).edges = g.edges ++ es := by
  induction es generalizing g with
  | nil => simp
  | cons e rest ih => rw [List.foldl_cons, ih, edges_connect, List.append_assoc]; rfl

theorem names_foldl_connect (es : List Edge) (g : SymbolGraph) :
    (es.foldl SymbolGraph.connect g).names = g.names := by
  induction es generalizing g with
  | nil => rfl
  | cons e rest ih => exact ih (g.connect e)

theorem declaration?_foldl_connect (es : List Edge) (g : SymbolGraph) (id : Text) :
    (es.foldl SymbolGraph.connect g).declaration? id = g.declaration? id := by
  induction es generalizing g with
  | nil => rfl
  | cons e rest ih => exact (ih (g.connect e)).trans declaration?_connect

/-! ### Documents -/

/-- **What it takes for a document to be accepted, and what its graph is.** Each node gives a
declaration, under ids of their own; and each edge fits what is declared by the document and what is
built-in. -/
theorem read_eq_ok_iff : read v = .ok g ↔
    ∃ nodes edges ds es, parts v = .ok (nodes, edges) ∧ nodes.mapM given = .ok ds ∧
      (ds.map Declaration.id).Nodup ∧ edges.mapM (edge (base ds)) = .ok es ∧
      g = es.foldl SymbolGraph.connect (base ds) := by
  simp only [read, bind_eq_ok_iff, lift_eq_ok_iff, Prod.exists, foldlM_addNode_eq_ok_iff,
    foldlM_addEdge_eq_ok_iff]
  constructor
  · rintro ⟨nodes, edges, hparts, _, ⟨ds, hds, hnodup, -, rfl⟩, es, hes, rfl⟩
    exact ⟨nodes, edges, ds, es, hparts, hds, hnodup, hes, rfl⟩
  · rintro ⟨nodes, edges, ds, es, hparts, hds, hnodup, hes, rfl⟩
    exact ⟨nodes, edges, hparts, _, ⟨ds, hds, hnodup, fun _ _ => rfl, rfl⟩, es, hes, rfl⟩

/-- The same, where the nodes and the edges of the document are known. -/
theorem read_eq_ok_iff_of_parts (hparts : parts v = .ok (nodes, edges)) : read v = .ok g ↔
    ∃ ds es, nodes.mapM given = .ok ds ∧ (ds.map Declaration.id).Nodup ∧
      edges.mapM (edge (base ds)) = .ok es ∧ g = es.foldl SymbolGraph.connect (base ds) := by
  rw [read_eq_ok_iff]
  constructor
  · rintro ⟨_, _, ds, es, hsame, hread⟩
    rw [hparts, Except.ok.injEq, Prod.mk.injEq] at hsame
    obtain ⟨rfl, rfl⟩ := hsame
    exact ⟨ds, es, hread⟩
  · rintro ⟨ds, es, hread⟩
    exact ⟨nodes, edges, ds, es, hparts, hread⟩

end KotlinPreferences.Document
