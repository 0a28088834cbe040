import KotlinPreferences.Document
import KotlinPreferences.Proofs.Document.Builtins
import KotlinPreferences.Proofs.Steps

/-!
# What an accepted document leaves behind

Reading a document succeeds only when every node and every edge of it was accepted, one after
another. Here stands what each of these steps does to the graph.

* `Document.Gives`, `nodeDeclaration_eq_ok_iff`: a node of a document gives a declaration;
* `Document.Says`, `edge_eq_ok_iff`: the edges that are accepted;
* `addNode_cases`, `addEdge_cases`, `read_cases`: what an accepted node, edge or document does;
* `Document.avoidsReserved`: no node takes an id that belongs to the built-in converter;
* `read_induction`: what holds of the graph of every accepted document, because growth keeps it;
* `read_sound`: the graph of every accepted document is sound;
* `read_wellFormed`: where the reserved ids are avoided, it is well-formed, and every node of the
  document is declared in it.
-/

namespace KotlinPreferences.Document

open SymbolGraph

variable {g g' : SymbolGraph} {v node : Value}

/-! ### Nodes -/

/-- A node of a document gives a declaration: it names the id and the kind, and its attributes give
the rest. -/
def Gives (node : Value) (d : Declaration) : Prop :=
  ∃ members, node = .obj members ∧ Value.member members "id" = .str d.id ∧
    Value.member members "kind" = .str d.kind.name ∧
    declaration d.kind d.id (Value.member members "attrs") = .ok d

theorem id_of_typeDecl {id : Text} {attrs : Value.Members} {t : TypeDecl}
    (h : typeDecl id attrs = .ok t) : t.id = id := by
  simp only [typeDecl, bind_eq_ok_iff, pure_eq_ok, Except.ok.injEq] at h
  obtain ⟨_, _, _, _, _, _, rfl⟩ := h
  rfl

theorem id_of_property {id : Text} {attrs : Value.Members} {p : Property}
    (h : property id attrs = .ok p) : p.id = id := by
  simp only [property, bind_eq_ok_iff, pure_eq_ok, Except.ok.injEq] at h
  obtain ⟨_, _, _, _, _, _, rfl⟩ := h
  rfl

theorem id_of_function {id : Text} {attrs : Value.Members} {f : Function}
    (h : function id attrs = .ok f) : f.id = id := by
  simp only [function, bind_eq_ok_iff, pure_eq_ok, Except.ok.injEq] at h
  obtain ⟨_, _, _, _, rfl⟩ := h
  rfl

theorem id_of_parameter {id : Text} {attrs : Value.Members} {p : Parameter}
    (h : parameter id attrs = .ok p) : p.id = id := by
  simp only [parameter, bind_eq_ok_iff, pure_eq_ok, Except.ok.injEq] at h
  obtain ⟨_, _, _, _, rfl⟩ := h
  rfl

/-- Attributes read for a kind and an id give a declaration of that kind and id. -/
theorem kind_id_of_declaration {kind : NodeKind} {id : Text} {attrs : Value} {d : Declaration}
    (h : declaration kind id attrs = .ok d) : d.kind = kind ∧ d.id = id := by
  rw [declaration, bind_eq_ok_iff] at h
  obtain ⟨members, -, h⟩ := h
  cases kind with
  | typeDecl =>
    obtain ⟨t, ht, rfl⟩ := map_eq_ok_iff.1 h
    exact ⟨rfl, id_of_typeDecl ht⟩
  | property =>
    obtain ⟨p, hp, rfl⟩ := map_eq_ok_iff.1 h
    exact ⟨rfl, id_of_property hp⟩
  | function =>
    obtain ⟨f, hf, rfl⟩ := map_eq_ok_iff.1 h
    exact ⟨rfl, id_of_function hf⟩
  | parameter =>
    obtain ⟨p, hp, rfl⟩ := map_eq_ok_iff.1 h
    exact ⟨rfl, id_of_parameter hp⟩

/-- A node gives one declaration only. -/
theorem Gives.unique {d d' : Declaration} (h : Gives node d) (h' : Gives node d') : d = d' := by
  obtain ⟨members, rfl, hid, hkind, hd⟩ := h
  obtain ⟨members', hobj, hid', hkind', hd'⟩ := h'
  cases hobj
  rw [hid, Value.str.injEq] at hid'
  rw [hkind, Value.str.injEq] at hkind'
  have hsame : d.kind = d'.kind := by
    have hname := congrArg NodeKind.ofName? hkind'
    simpa using hname
  rw [hid', hsame, hd', Except.ok.injEq] at hd
  exact hd.symm

theorem freshId_cases {members : Value.Members} {id : Text}
    (h : freshId g node members = .ok id) :
    Value.member members "id" = .str id ∧ id ≠ "" ∧ g.hasNode id = false := by
  unfold freshId at h
  split at h
  · rename_i s hs
    split at h
    · cases h
    · split at h
      · cases h
      · rename_i hne hnew
        cases h
        exact ⟨hs, hne, by simpa using hnew⟩
  · cases h

theorem nodeKind_cases {id : Text} {kind : NodeKind} (h : nodeKind id v = .ok kind) :
    v = .str kind.name := by
  unfold nodeKind at h
  split at h
  · rw [NodeKind.name_of_ofName? (orFail_eq_ok_iff.1 h)]
  · cases h

theorem nodeKind_name (id : Text) (kind : NodeKind) : nodeKind id (.str kind.name) = .ok kind := by
  simp [nodeKind]

/-- A node gives a declaration if its id is not empty; and of all other nodes it only matters whether
one has that id. -/
theorem nodeDeclaration_eq_ok_iff {d : Declaration} : nodeDeclaration g node = .ok d ↔
    Gives node d ∧ d.id ≠ "" ∧ g.hasNode d.id = false := by
  constructor
  · intro hd
    unfold nodeDeclaration at hd
    split at hd
    · rename_i members
      simp only [bind_eq_ok_iff, lift_eq_ok_iff] at hd
      obtain ⟨id, hid, kind, hkind, hd⟩ := hd
      obtain ⟨hmember, hne, hnew⟩ := freshId_cases hid
      obtain ⟨rfl, rfl⟩ := kind_id_of_declaration hd
      exact ⟨⟨members, rfl, hmember, nodeKind_cases hkind, hd⟩, hne, hnew⟩
    · cases hd
  · rintro ⟨⟨members, rfl, hid, hkind, hd⟩, hne, hnew⟩
    have hfresh : freshId g (.obj members) members = .ok d.id := by
      simp [freshId, hid, hne, hnew]
    rw [nodeDeclaration, lift_eq_ok_iff.2 hfresh, ok_bind, hkind, nodeKind_name, ok_bind, hd]

/-- An accepted node gives a declaration under a new id, which can be registered. -/
theorem addNode_cases (h : addNode g node = .ok g') :
    ∃ d, Gives node d ∧ g.hasNode d.id = false ∧ d.id ≠ "" ∧ registrable d = .ok () ∧
      g' = g.insert d := by
  simp only [addNode, bind_eq_ok_iff, nodeDeclaration_eq_ok_iff, pure_eq_ok, Except.ok.injEq] at h
  obtain ⟨d, ⟨hgives, hne, hnew⟩, ⟨⟩, hregistrable, rfl⟩ := h
  exact ⟨d, hgives, hnew, hne, hregistrable, rfl⟩

/-! ### Edges -/

/-- An edge of a document says what it joins, and as what. -/
def Says (v : Value) (e : Edge) : Prop :=
  ∃ members, v = .obj members ∧ Value.member members "type" = .str e.kind.name ∧
    Value.member members "src" = .str e.source ∧ Value.member members "dst" = .str e.target

/-- The kinds that a document can name are those that prescribe their ends. -/
theorem edgeKind_eq_ok_iff {kind : EdgeKind} :
    edgeKind v = .ok kind ↔ v = .str kind.name ∧ kind.ends?.isSome = true := by
  constructor
  · intro h
    unfold edgeKind at h
    split at h
    · rename_i s
      have hkind := orFail_eq_ok_iff.1 h
      refine ⟨congrArg Value.str (EdgeKind.name_of_ofName? hkind).symm, ?_⟩
      cases kind with
      | other label =>
        simp only [EdgeKind.ofName?] at hkind
        split_ifs at hkind <;> cases hkind
      | _ => rfl
    · cases h
  · rintro ⟨rfl, hends⟩
    cases kind with
    | other label => cases hends
    | _ => simp [edgeKind, EdgeKind.name, EdgeKind.ofName?]

/-- An edge is accepted where its ends are declared as its kind prescribes. -/
theorem joined_eq_ok_iff {kind : EdgeKind} (hends : kind.ends?.isSome = true) {source target : Value}
    {e : Edge} : joined g kind source target = .ok e ↔
      source = .str e.source ∧ target = .str e.target ∧ e.kind = kind ∧ g.Fits e := by
  obtain ⟨expected, hexpected⟩ := Option.isSome_iff_exists.1 hends
  constructor
  · intro h
    unfold joined at h
    split at h
    · rename_i s t
      split_ifs at h with hnodes
      -- the kind prescribes its ends, so they have been compared with what was found
      rw [hexpected] at h
      simp only at h
      split_ifs at h with hfound
      cases h
      rw [Prod.mk.injEq, Option.map_eq_some_iff, Option.map_eq_some_iff] at hfound
      obtain ⟨⟨ds, hds, hks⟩, ⟨dt, hdt, hkt⟩⟩ := hfound
      exact ⟨rfl, rfl, rfl, ds, dt, hds, hdt, by rw [hexpected, hks, hkt]⟩
    · cases h
  · rintro ⟨rfl, rfl, rfl, hfits⟩
    have hs := hfits.hasNode_source
    have ht := hfits.hasNode_target
    obtain ⟨s, t, hds, hdt, hkinds⟩ := hfits
    simp [joined, hs, ht, hds, hdt, hkinds]

theorem edge_eq_ok_iff {e : Edge} : edge g v = .ok e ↔ Says v e ∧ g.Fits e := by
  constructor
  · intro h
    unfold edge at h
    split at h
    · rename_i members
      obtain ⟨kind, hkind, h⟩ := bind_eq_ok_iff.1 h
      obtain ⟨htype, hends⟩ := edgeKind_eq_ok_iff.1 hkind
      obtain ⟨hsource, htarget, rfl, hfits⟩ := (joined_eq_ok_iff hends).1 h
      exact ⟨⟨members, rfl, htype, hsource, htarget⟩, hfits⟩
    · cases h
  · rintro ⟨⟨members, rfl, htype, hsource, htarget⟩, hfits⟩
    have hends : e.kind.ends?.isSome = true := by
      obtain ⟨s, t, -, -, hkinds⟩ := hfits
      rw [hkinds]
      rfl
    rw [edge, edgeKind_eq_ok_iff.2 ⟨htype, hends⟩, ok_bind]
    exact (joined_eq_ok_iff hends).2 ⟨hsource, htarget, rfl, hfits⟩

/-- An accepted edge fits. -/
theorem addEdge_cases (h : addEdge g v = .ok g') :
    ∃ e, edge g v = .ok e ∧ g.Fits e ∧ g' = g.connect e := by
  rw [addEdge, bind_eq_ok_iff] at h
  obtain ⟨e, he, h⟩ := h
  cases h
  exact ⟨e, he, (edge_eq_ok_iff.1 he).2, rfl⟩

/-! ### Documents -/

theorem read_cases (h : read v = .ok g) : ∃ nodes edges g₀, parts v = .ok (nodes, edges) ∧
    nodes.foldlM addNode {} = .ok g₀ ∧ edges.foldlM addEdge g₀.withBuiltins = .ok g := by
  simp only [read, bind_eq_ok_iff, lift_eq_ok_iff] at h
  obtain ⟨⟨nodes, edges⟩, hparts, g₀, hnodes, hedges⟩ := h
  exact ⟨nodes, edges, g₀, hparts, hnodes, hedges⟩

/-- The graph after some nodes of a document: it declares what they give, and nothing else. -/
structure NodesRead (nodes : List Value) (g : SymbolGraph) : Prop where
  wellFormed : g.WellFormed
  edges : g.edges = []
  declared : ∀ node ∈ nodes, ∃ d, Gives node d ∧ g.declaration? d.id = some d
  given : ∀ id d, g.declaration? id = some d → ∃ node ∈ nodes, Gives node d

theorem NodesRead.insert {nodes : List Value} (h : NodesRead nodes g) {d : Declaration}
    (hgives : Gives node d) (hnew : g.hasNode d.id = false) (hne : d.id ≠ "") :
    NodesRead (nodes ++ [node]) (g.insert d) where
  wellFormed := h.wellFormed.insert hnew hne
  edges := h.edges
  declared m hm := by
    rw [List.mem_append, List.mem_singleton] at hm
    rcases hm with hold | rfl
    · obtain ⟨c, hc, hdecl⟩ := h.declared m hold
      exact ⟨c, hc, declaration?_insert_of_new hdecl hnew⟩
    · exact ⟨d, hgives, by rw [declaration?_insert, if_pos rfl]⟩
  given id c hc := by
    rw [declaration?_insert] at hc
    split at hc
    · cases hc
      exact ⟨node, by simp, hgives⟩
    · obtain ⟨m, hm, hc⟩ := h.given id c hc
      exact ⟨m, by simp [hm], hc⟩

theorem nodesRead {nodes : List Value} (h : nodes.foldlM addNode {} = .ok g) :
    NodesRead nodes g := by
  refine foldlM_invariant NodesRead ?_ ?_ h
  · exact ⟨.empty, rfl, by simp, by simp [declaration?, node?]⟩
  · intro done node g g' _ hinv hstep
    obtain ⟨d, hgives, hnew, hne, -, rfl⟩ := addNode_cases hstep
    exact hinv.insert hgives hnew hne

theorem edgesRead {edges : List Value} {base : SymbolGraph}
    (h : edges.foldlM addEdge base = .ok g) :
    (base.Sound → g.Sound) ∧ (base.WellFormed → g.WellFormed) ∧
      ∀ id, g.declaration? id = base.declaration? id := by
  refine foldlM_invariant (fun _ g => (base.Sound → g.Sound) ∧ (base.WellFormed → g.WellFormed) ∧
    ∀ id, g.declaration? id = base.declaration? id) ⟨id, id, fun _ => rfl⟩ ?_ h
  intro done v g g' _ ⟨hsound, hwf, hdecl⟩ hstep
  obtain ⟨e, -, hfit, rfl⟩ := addEdge_cases hstep
  refine ⟨fun hbase => ?_, fun hbase => (hwf hbase).connect hfit, fun id => ?_⟩
  · exact (hsound hbase).connect hfit
  · rw [declaration?_connect, hdecl]

/-! ### Reserved ids -/

/-- The nodes of a document. -/
def nodesOf (v : Value) : List Value :=
  match parts v with
  | .ok (nodes, _) => nodes
  | .error _ => []

theorem nodesOf_eq {nodes edges : List Value} (h : parts v = .ok (nodes, edges)) :
    nodesOf v = nodes := by
  rw [nodesOf, h]

/-- A node takes none of the ids that belong to the functions of the built-in converter and their
parameters. -/
def avoidsReservedIds : Value → Bool
  | .obj members =>
    match Value.member members "id" with
    | .str id => !Builtin.reservedIds.contains id
    | _ => true
  | _ => true

/-- No node of a document takes one of those ids. -/
def avoidsReserved (v : Value) : Bool := (nodesOf v).all avoidsReservedIds

theorem not_mem_reservedIds_of_gives {d : Declaration} (hgives : Gives node d)
    (havoids : avoidsReservedIds node = true) : d.id ∉ Builtin.reservedIds := by
  obtain ⟨members, rfl, hid, -, -⟩ := hgives
  simpa [avoidsReservedIds, hid] using havoids

theorem NodesRead.reservedFree {nodes : List Value} (h : NodesRead nodes g)
    (havoids : ∀ node ∈ nodes, avoidsReservedIds node = true) : g.ReservedFree := by
  intro id hid
  by_contra hsome
  obtain ⟨d, hd⟩ := Option.ne_none_iff_exists'.1 hsome
  obtain ⟨node, hnode, hgives⟩ := h.given id d hd
  have hdid := h.wellFormed.declared.id_of_declaration? hd
  exact not_mem_reservedIds_of_gives hgives (havoids node hnode) (hdid ▸ hid)

/-! ### Accepted documents -/

/-- What passes over every declaration that can be registered, and over every edge, holds of the
graph of every accepted document. -/
theorem read_induction {P : SymbolGraph → Prop} (h : read v = .ok g) (hempty : P {})
    (hinsert : ∀ g d, registrable d = .ok () → P g → P (g.insert d))
    (hconnect : ∀ g e, P g → P (g.connect e)) : P g := by
  obtain ⟨nodes, edges, g₀, -, hnodes, hedges⟩ := read_cases h
  have hread : P g₀ := by
    refine foldlM_invariant (fun _ g => P g) hempty ?_ hnodes
    intro done node g g' _ hg hstep
    obtain ⟨d, -, -, -, hd, rfl⟩ := addNode_cases hstep
    exact hinsert g d hd hg
  have hbase : P g₀.withBuiltins :=
    withBuiltins_induction (fun g d hd _ hg => hinsert g d hd hg) hconnect hread
  refine foldlM_invariant (fun _ g => P g) hbase ?_ hedges
  intro done v g g' _ hg hstep
  obtain ⟨e, -, -, rfl⟩ := addEdge_cases hstep
  exact hconnect g e hg

theorem read_closed (h : read v = .ok g) : g.Closed :=
  read_induction h .empty (fun _ d _ hg => hg.insert d) fun _ e hg => hg.connect e

theorem read_keyed (h : read v = .ok g) : g.Keyed :=
  read_induction h .empty (fun _ _ hd hg => hg.insert hd) fun _ e hg => hg.connect e

/-- The graph of every accepted document is sound. -/
theorem read_sound (h : read v = .ok g) : g.Sound := by
  obtain ⟨nodes, edges, g₀, -, hnodes, hedges⟩ := read_cases h
  have hread := nodesRead hnodes
  exact (edgesRead hedges).1 (Sound.withBuiltins hread.wellFormed hread.edges)

/-- Every property in the graph of an accepted document is given by a node of the document. -/
theorem exists_node_of_property {id : Text} {q : Property} (h : read v = .ok g)
    (hq : g.declaration? id = some (.property q)) : ∃ node ∈ nodesOf v, Gives node (.property q) := by
  obtain ⟨nodes, edges, g₀, hparts, hnodes, hedges⟩ := read_cases h
  obtain ⟨-, -, hdecl⟩ := edgesRead hedges
  rw [nodesOf_eq hparts]
  exact (nodesRead hnodes).given id _ (property_of_withBuiltins ((hdecl id).symm.trans hq))

/-- Where the reserved ids are avoided, the graph of an accepted document is well-formed, and it
declares what the nodes of the document give. -/
theorem read_wellFormed (h : read v = .ok g) (havoids : avoidsReserved v = true) :
    g.WellFormed ∧ ∀ node ∈ nodesOf v, ∃ d, Gives node d ∧ g.declaration? d.id = some d := by
  obtain ⟨nodes, edges, g₀, hparts, hnodes, hedges⟩ := read_cases h
  have hnodesOf := nodesOf_eq hparts
  rw [avoidsReserved, hnodesOf, List.all_eq_true] at havoids
  have hread := nodesRead hnodes
  obtain ⟨-, hwf, hdecl⟩ := edgesRead hedges
  refine ⟨hwf (hread.wellFormed.withBuiltins (hread.reservedFree havoids)), ?_⟩
  intro node hnode
  rw [hnodesOf] at hnode
  obtain ⟨d, hgives, hd⟩ := hread.declared node hnode
  have hnot := not_mem_reservedIds_of_gives hgives (havoids node hnode)
  exact ⟨d, hgives, (hdecl d.id).trans (declaration?_withBuiltins hd hnot)⟩

end KotlinPreferences.Document
