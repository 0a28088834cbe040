import KotlinPreferences.Proofs.Document.Comparison
import KotlinPreferences.Proofs.SymbolGraph.Alike

/-!
# The order of a document

The nodes of a document may come in any order, and so may its edges, as long as those out of one node
keep their order. If the document is accepted, so is the other one; and where the names of its types
tell them apart, the two graphs are read alike.

* `Reordered`: a document with its nodes and edges in another order;
* `declaration?_base_of_perm`: the same declarations in another order make a graph that declares the
  same;
* `read_of_reordered`: the other document is accepted, too;
* `DistinctlyNamed`: the names of the types of a document are different texts;
* `alike_of_reordered`: then the graphs are read alike.
-/

namespace KotlinPreferences

namespace SymbolGraph

variable {g g' : SymbolGraph} {key : Key} {id : Text}

/-- The names of types lead to one type each. -/
def NamesInjective (g : SymbolGraph) : Prop :=
  ∀ t ∈ g.typeDecls, ∀ u ∈ g.typeDecls, t.qualifiedName.key? = u.qualifiedName.key? → t = u

/-- Where names lead to one type each, it does not matter which one was registered last. -/
theorem WellFormed.lookup_names_iff (h : g.WellFormed) (hinj : g.NamesInjective) :
    g.names.lookup key = some id ↔
      ∃ t ∈ g.typeDecls, t.qualifiedName.key? = some key ∧ t.id = id := by
  constructor
  · exact h.indexed.exists_of_lookup
  · rintro ⟨t, ht, hkey, rfl⟩
    rw [show g.names = _ from h.indexed, lookup_registrations, Option.map_eq_some_iff]
    have hsome : (g.typeDecls.reverse.find? fun u => u.qualifiedName.key? = some key).isSome = true :=
      List.find?_isSome.2 ⟨t, List.mem_reverse.2 ht, by simpa using hkey⟩
    obtain ⟨u, hu⟩ := Option.isSome_iff_exists.1 hsome
    have hsame : u.qualifiedName.key? = some key := by simpa using List.find?_some hu
    have hmem : u ∈ g.typeDecls := List.mem_reverse.1 (List.mem_of_find?_eq_some hu)
    obtain rfl : u = t := hinj u hmem t ht (hsame.trans hkey.symm)
    exact ⟨u, hu, rfl⟩

/-- Two graphs that declare the same name the same, where names lead to one type each. -/
theorem WellFormed.namedWithin (h : g.WellFormed) (h' : g'.WellFormed) (hinj : g.NamesInjective)
    (hdecl : ∀ id, g.declaration? id = g'.declaration? id) : g.NamedWithin g' := by
  have htypes : ∀ t, t ∈ g.typeDecls ↔ t ∈ g'.typeDecls := fun t => by
    rw [h.declared.mem_typeDecls_iff, h'.declared.mem_typeDecls_iff, hdecl]
  have hinj' : g'.NamesInjective := fun t ht u hu => hinj t ((htypes t).2 ht) u ((htypes u).2 hu)
  intro key id hid
  obtain ⟨t, ht, hnamed⟩ := (h.lookup_names_iff hinj).1 hid
  exact (h'.lookup_names_iff hinj').2 ⟨t, (htypes t).1 ht, hnamed⟩

end SymbolGraph

namespace Document

open SymbolGraph

variable {g g' : SymbolGraph} {v v' : Value} {nodes nodes' edges edges' : List Value}
  {ds ds' : List Declaration} {es es' : List Edge}

/-! ### Another order -/

/-- Whether an edge of a document starts at the node of an id. -/
def startsAt (source : Text) : Value → Bool
  | .obj members =>
    match Value.member members "src" with
    | .str s => s == source
    | _ => false
  | _ => false

/-- Two lists of edges have the same edges, those out of one node in the same order. -/
structure EdgesReordered (edges edges' : List Value) : Prop where
  perm : edges.Perm edges'
  outgoing : ∀ source, edges.filter (startsAt source) = edges'.filter (startsAt source)

/-- A document has the nodes and the edges of another one, the edges out of one node in the same
order. -/
def Reordered (v v' : Value) : Prop :=
  ∃ nodes edges nodes' edges', parts v = .ok (nodes, edges) ∧ parts v' = .ok (nodes', edges') ∧
    nodes.Perm nodes' ∧ EdgesReordered edges edges'

theorem EdgesReordered.symm (h : EdgesReordered edges edges') : EdgesReordered edges' edges :=
  ⟨h.perm.symm, fun source => (h.outgoing source).symm⟩

/-- Edges may go behind others if no node is the source of both. -/
theorem edgesReordered_append_comm
    (h : ∀ source, edges.filter (startsAt source) = [] ∨ edges'.filter (startsAt source) = []) :
    EdgesReordered (edges ++ edges') (edges' ++ edges) where
  perm := List.perm_append_comm
  outgoing source := by
    rw [List.filter_append, List.filter_append]
    rcases h source with hnone | hnone
    · rw [hnone, List.nil_append, List.append_nil]
    · rw [hnone, List.nil_append, List.append_nil]

theorem Reordered.symm (h : Reordered v v') : Reordered v' v := by
  obtain ⟨nodes, edges, nodes', edges', hparts, hparts', hnodes, hedges⟩ := h
  exact ⟨nodes', edges', nodes, edges, hparts', hparts, hnodes.symm, hedges.symm⟩

/-! ### Declarations in another order -/

theorem Together.declaration?_of_perm (h : Together ds) (h' : Together ds') (hperm : ds.Perm ds')
    (id : Text) : (ofDeclarations ds).declaration? id = (ofDeclarations ds').declaration? id := by
  ext d
  rw [h.declaration?_iff, h'.declaration?_iff, hperm.mem_iff]

theorem Together.lacksSame (h : Together ds) (h' : Together ds') (hperm : ds.Perm ds') :
    (ofDeclarations ds).LacksSame (ofDeclarations ds') :=
  h.wellFormed.lacksSame h'.wellFormed (h.declaration?_of_perm h' hperm)

theorem Together.base_within (h : Together ds) (h' : Together ds') (hperm : ds.Perm ds') :
    (base ds).Within (base ds') := by
  refine Within.withBuiltins h.wellFormed h'.wellFormed (h.lacksSame h' hperm) ?_
  intro id d hd
  rwa [← h.declaration?_of_perm h' hperm]

/-- With the built-in ones, the same declarations in another order are the same. -/
theorem Together.declaration?_base (h : Together ds) (h' : Together ds') (hperm : ds.Perm ds')
    (id : Text) : (base ds).declaration? id = (base ds').declaration? id := by
  ext d
  exact ⟨h.base_within h' hperm id d, h'.base_within h hperm.symm id d⟩

theorem Together.edge_base (h : Together ds) (h' : Together ds') (hperm : ds.Perm ds') :
    edge (base ds) = edge (base ds') := by
  have hdecl := h.declaration?_base h' hperm
  refine edge_congr (fun id => ?_) hdecl
  rw [h.sound_base.declared.hasNode_eq, h'.sound_base.declared.hasNode_eq, hdecl]

/-- **A document in another order is accepted, too.** -/
theorem read_of_reordered (h : Reordered v v') (hread : read v = .ok g) : ∃ g', read v' = .ok g' := by
  obtain ⟨nodes, edges, nodes', edges', hparts, hparts', hnodes, hedges⟩ := h
  obtain ⟨ds, es, hds, hnodup, hes, -⟩ := (read_eq_ok_iff_of_parts hparts).1 hread
  obtain ⟨ds', hds', hperm⟩ := mapM_of_perm hds hnodes
  have hnodup' : (ds'.map Declaration.id).Nodup := (hperm.map _).nodup_iff.1 hnodup
  have hedge := (together hds hnodup).edge_base (together hds' hnodup') hperm
  obtain ⟨es', hes', -⟩ := mapM_of_perm hes hedges.perm
  exact ⟨_, (read_eq_ok_iff_of_parts hparts').2 ⟨ds', es', hds', hnodup', hedge ▸ hes', rfl⟩⟩

/-! ### Names in another order -/

/-- The qualified name of the type that a node gives. -/
def typeName? (node : Value) : Option Value :=
  match given node with
  | .ok (.typeDecl t) => some t.qualifiedName
  | _ => none

/-- The qualified names of the types of a document. -/
def typeNames (v : Value) : List Value := (nodesOf v).filterMap typeName?

/-- The qualified names of the types of a document are different texts. -/
structure DistinctlyNamed (v : Value) : Prop where
  isText : ∀ name ∈ typeNames v, name.isText = true
  nodup : (typeNames v).Nodup

theorem typeName?_eq {node : Value} {d : Declaration} (h : given node = .ok d) :
    typeName? node = d.qualifiedName? := by
  rw [typeName?, h]
  cases d <;> rfl

theorem qualifiedNames_ofDeclarations (hgiven : nodes.mapM given = .ok ds)
    (hnodup : (ds.map Declaration.id).Nodup) :
    (ofDeclarations ds).typeDecls.map TypeDecl.qualifiedName = nodes.filterMap typeName? := by
  have htypes : (ofDeclarations ds).typeDecls = ds.filterMap Declaration.typeDecl? := by
    rw [typeDecls, nodes_ofDeclarations hnodup, List.filterMap_map]
    rfl
  have hnames : nodes.filterMap typeName? = ds.filterMap Declaration.qualifiedName? := by
    have hsteps := mapM_eq_ok_iff.1 hgiven
    clear hgiven hnodup htypes
    induction hsteps with
    | nil => rfl
    | cons hd _ ih => rw [List.filterMap_cons, List.filterMap_cons, typeName?_eq hd, ih]
  rw [htypes, hnames, List.map_filterMap]
  refine List.filterMap_congr fun d _ => ?_
  cases d <;> rfl

theorem DistinctlyNamed.namesInjective (h : DistinctlyNamed v) (hparts : parts v = .ok (nodes, edges))
    (hgiven : nodes.mapM given = .ok ds) (hnodup : (ds.map Declaration.id).Nodup) :
    (ofDeclarations ds).NamesInjective := by
  have hall : (ofDeclarations ds).typeDecls.map TypeDecl.qualifiedName = typeNames v := by
    rw [qualifiedNames_ofDeclarations hgiven hnodup, typeNames, nodesOf, hparts]
  have htext : ∀ t ∈ (ofDeclarations ds).typeDecls, ∃ name, t.qualifiedName = .str name := by
    intro t ht
    have hmem : t.qualifiedName ∈ typeNames v := hall ▸ List.mem_map_of_mem ht
    have hisText := h.isText _ hmem
    cases hq : t.qualifiedName with
    | str name => exact ⟨name, rfl⟩
    | _ => simp [hq, Value.isText] at hisText
  intro t ht u hu hkey
  obtain ⟨a, ha⟩ := htext t ht
  obtain ⟨b, hb⟩ := htext u hu
  rw [ha, hb, Value.key?_str, eq_comm, Value.key?_eq_str_iff, Value.str.injEq] at hkey
  exact List.inj_on_of_nodup_map (hall ▸ h.nodup) ht hu (by rw [ha, hb, hkey])

theorem Together.names_base (h : Together ds) (h' : Together ds') (hperm : ds.Perm ds')
    (hinj : (ofDeclarations ds).NamesInjective) : (base ds).NamedWithin (base ds') :=
  NamedWithin.withBuiltins h.wellFormed h'.wellFormed (h.lacksSame h' hperm)
    (h.wellFormed.namedWithin h'.wellFormed hinj (h.declaration?_of_perm h' hperm))

/-! ### Edges in another order -/

/-- An edge starts where the document says. -/
theorem startsAt_of_edge {e : Edge} (h : edge g v = .ok e) (source : Text) :
    startsAt source v = decide (e.source = source) := by
  obtain ⟨⟨members, rfl, -, hsource, -⟩, -⟩ := edge_eq_ok_iff.1 h
  simp only [startsAt, hsource]
  rfl

theorem Together.namesInjective_of_perm (h : Together ds) (h' : Together ds') (hperm : ds.Perm ds')
    (hinj : (ofDeclarations ds).NamesInjective) : (ofDeclarations ds').NamesInjective := by
  have htypes : ∀ t, t ∈ (ofDeclarations ds').typeDecls → t ∈ (ofDeclarations ds).typeDecls := by
    intro t ht
    rw [h'.wellFormed.declared.mem_typeDecls_iff, ← h.declaration?_of_perm h' hperm] at ht
    exact h.wellFormed.declared.mem_typeDecls_iff.2 ht
  exact fun t ht u hu => hinj t (htypes t ht) u (htypes u hu)

theorem Together.interfaceEdge?_of_perm (h : Together ds) (h' : Together ds') (hperm : ds.Perm ds')
    (hinj : (ofDeclarations ds).NamesInjective) {e : Edge}
    (he : (ofDeclarations ds).interfaceEdge? = some e) :
    (ofDeclarations ds').interfaceEdge? = some e := by
  have hdecl := h.declaration?_of_perm h' hperm
  exact interfaceEdge?_of_within h.wellFormed h'.wellFormed (h.lacksSame h' hperm)
    (fun id d hd => by rwa [← hdecl]) (h.wellFormed.namedWithin h'.wellFormed hinj hdecl) he

theorem Together.edges_base (h : Together ds) (h' : Together ds') (hperm : ds.Perm ds')
    (hinj : (ofDeclarations ds).NamesInjective) : (base ds).edges = (base ds').edges := by
  have hinj' := h.namesInjective_of_perm h' hperm hinj
  have hinterface : (ofDeclarations ds).interfaceEdge? = (ofDeclarations ds').interfaceEdge? := by
    ext e
    exact ⟨h.interfaceEdge?_of_perm h' hperm hinj, h'.interfaceEdge?_of_perm h hperm.symm hinj'⟩
  rw [base, base, h.wellFormed.edges_withBuiltins h.edges, h'.wellFormed.edges_withBuiltins h'.edges,
    hinterface, (h.lacksSame h' hperm).stringConverter]

/-- The edges out of one node keep their order. -/
theorem EdgesReordered.outgoing_of_mapM (h : EdgesReordered edges edges') {g : SymbolGraph}
    (hes : edges.mapM (edge g) = .ok es) (hes' : edges'.mapM (edge g) = .ok es') (source : Text) :
    (es.filter fun e => e.source = source) = es'.filter fun e => e.source = source := by
  have hsource : ∀ edges : List Value, ∀ v ∈ edges, ∀ e, edge g v = .ok e →
      startsAt source v = decide (e.source = source) := fun _ _ _ _ he => startsAt_of_edge he source
  have hfilter := mapM_filter hes (hsource edges)
  rwa [h.outgoing, mapM_filter hes' (hsource edges'), Except.ok.injEq, eq_comm] at hfilter

/-- A name leads to the same type, whatever edges there are. -/
theorem Together.typeNamed?_of_perm (h : Together ds) (h' : Together ds') (hperm : ds.Perm ds')
    (hinj : (ofDeclarations ds).NamesInjective) {key : Key} {d : Declaration}
    (hd : (es.foldl SymbolGraph.connect (base ds)).typeNamed? key = some d) :
    (es'.foldl SymbolGraph.connect (base ds')).typeNamed? key = some d :=
  typeNamed?_of_within ((h.base_within h' hperm).foldl_connect es es')
    ((h.names_base h' hperm hinj).foldl_connect es es') hd

/-- **Documents in another order are read alike**, where the names of their types tell them apart. -/
theorem alike_of_reordered (h : Reordered v v') (hnames : DistinctlyNamed v)
    (hread : read v = .ok g) (hread' : read v' = .ok g') : g.Alike g' := by
  have hsound := read_sound hread
  have hsound' := read_sound hread'
  obtain ⟨nodes, edges, nodes', edges', hparts, hparts', hnodes, hedges⟩ := h
  obtain ⟨ds, es, hds, hnodup, hes, rfl⟩ := (read_eq_ok_iff_of_parts hparts).1 hread
  obtain ⟨ds', es', hds', hnodup', hes', rfl⟩ := (read_eq_ok_iff_of_parts hparts').1 hread'
  have hperm : ds.Perm ds' := by
    obtain ⟨_, hsame, hperm⟩ := mapM_of_perm hds hnodes
    rw [hds', Except.ok.injEq] at hsame
    exact hsame ▸ hperm
  have ht := together hds hnodup
  have ht' := together hds' hnodup'
  have hinj := hnames.namesInjective hparts hds hnodup
  have hinj' := ht.namesInjective_of_perm ht' hperm hinj
  refine ⟨hsound, hsound', fun id => ?_, fun key => ?_, fun id => ?_⟩
  · rw [declaration?_foldl_connect, declaration?_foldl_connect, ht.declaration?_base ht' hperm]
  · ext d
    exact ⟨ht.typeNamed?_of_perm ht' hperm hinj, ht'.typeNamed?_of_perm ht hperm.symm hinj'⟩
  · rw [← ht.edge_base ht' hperm] at hes'
    rw [edges_foldl_connect, edges_foldl_connect, List.filter_append, List.filter_append,
      ht.edges_base ht' hperm hinj, hedges.outgoing_of_mapM hes hes']

end Document

end KotlinPreferences
