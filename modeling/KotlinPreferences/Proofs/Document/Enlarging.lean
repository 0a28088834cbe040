import KotlinPreferences.Proofs.Document.Contents
import KotlinPreferences.Proofs.SymbolGraph.PartOf

/-!
# Documents that are enlarged

A document is enlarged by types under ids and names that its graph does not know, and by edges to
supertypes. Then its graph is part of the graph of the larger document. So holders that were
consistent stay so, and so do preferences that were valid and types that could stand for others. The
built-in declarations do not get in the way, since both documents lack the same ones.

* `WellFormed.exists_of_lacks`: a built-in type that is lacking comes up;
* `SymbolGraph.NewTo`: a type has an id and a name that a graph does not know;
* `Document.Grown`: the declarations of a document and those that are added to them;
* `Grown.lacksSame`, `Grown.base_within`, `Grown.wellFormed_base'`: the built-in declarations of both;
* `Document.Enlarges`, `partOf_of_enlarges`: a document is enlarged, and its graph with it;
* `enlarged_keeps`: what the graph of the larger document keeps.
-/

namespace KotlinPreferences

namespace SymbolGraph

variable {g g' : SymbolGraph} {key : Key} {id q : Text} {d : Declaration} {t : TypeDecl}

/-! ### Built-in types that are lacking -/

theorem declaration?_withType_of_lacks (h : g.lacks q = true) (kind : TypeKind) :
    (g.withType q kind).declaration? (Builtin.typeId q) =
      some (.typeDecl (Builtin.typeDecl q kind)) := by
  rw [withType, if_pos h]
  exact declaration?_insert.trans (if_pos rfl)

theorem typeId_not_mem_reservedIds (q : Text) : Builtin.typeId q ∉ Builtin.reservedIds :=
  fun hmem => Builtin.ne_typeId_of_mem_reservedIds hmem q rfl

/-- A built-in type that is lacking comes up under its id, with its name. -/
theorem WellFormed.exists_of_lacks (h : g.WellFormed) (hq : q ∈ Builtin.typeNames)
    (hlacks : g.lacks q = true) : ∃ kind, g.withBuiltins.declaration? (Builtin.typeId q) =
      some (.typeDecl (Builtin.typeDecl q kind)) := by
  have hfree := typeId_not_mem_reservedIds q
  simp only [Builtin.typeNames, List.mem_cons, List.not_mem_nil, or_false] at hq
  rcases hq with rfl | rfl | rfl | rfl
  · have hcomes := declaration?_withType_of_lacks hlacks .classType
    exact ⟨.classType, declaration?_withStringConverter (declaration?_withType (declaration?_withType
      hcomes _ _) _ _) hfree⟩
  · have hcomes := declaration?_withType_of_lacks (h.lacks_stringType.trans hlacks) .classType
    exact ⟨.classType, declaration?_withStringConverter (declaration?_withType hcomes _ _) hfree⟩
  · have hcomes := declaration?_withType_of_lacks (h.lacks_converterInterface.trans hlacks) .interface
    exact ⟨.interface, declaration?_withStringConverter hcomes hfree⟩
  · have hlacks := h.lacks_withPlainTypes.trans hlacks
    have hfunction : ∀ (g : SymbolGraph) (name : Text), (g.withConverterFunction name).declaration?
        (Builtin.typeId Vocabulary.stringConverter) =
          g.declaration? (Builtin.typeId Vocabulary.stringConverter) := fun g name =>
      declaration?_withConverterFunction_of_ne (Builtin.functionId_ne_typeId _ _).symm
        (Builtin.parameterId_ne_typeId _ _).symm
    refine ⟨.classType, ?_⟩
    rw [withBuiltins_eq, SymbolGraph.withStringConverter, if_pos hlacks, hfunction, hfunction,
      declaration?_withConverterInterface]
    exact declaration?_withType_of_lacks hlacks _

/-- Where the graph has the converter already, nothing but the other types comes up. -/
theorem WellFormed.withBuiltins_of_not_lacks (h : g.WellFormed)
    (hlacks : ¬ g.lacks Vocabulary.stringConverter = true) : g.withBuiltins = g.withPlainTypes := by
  rw [withBuiltins_eq, SymbolGraph.withStringConverter, h.lacks_withPlainTypes, if_neg hlacks]

/-! ### New types -/

/-- A type has an id that no node has, and a text as its name that no type has. -/
structure NewTo (g : SymbolGraph) (t : TypeDecl) : Prop where
  id : g.hasNode t.id = false
  name : ∃ q, t.qualifiedName = .str q ∧ ∀ u ∈ g.typeDecls, u.qualifiedName ≠ .str q

/-- What is new to a graph is new to any other one that declares the same. -/
theorem NewTo.of_declaration? (h : g.NewTo t) (hdeclared : g.Declared) (hdeclared' : g'.Declared)
    (hdecl : ∀ id, g.declaration? id = g'.declaration? id) : g'.NewTo t where
  id := by rw [hdeclared'.hasNode_eq, ← hdecl, ← hdeclared.hasNode_eq, h.id]
  name := by
    obtain ⟨q, hq, hnone⟩ := h.name
    refine ⟨q, hq, fun u hu => hnone u ?_⟩
    rwa [hdeclared.mem_typeDecls_iff, hdecl, ← hdeclared'.mem_typeDecls_iff]

theorem NewTo.ne_of_declaration? (h : g.NewTo t) (hd : g.declaration? id = some d) : t.id ≠ id := by
  rintro rfl
  have hnew := h.id
  rw [hasNode_of_declaration? hd] at hnew
  cases hnew

theorem NewTo.qualifiedName_ne (h : g.NewTo t) (hdeclared : g.Declared) {u : TypeDecl}
    (hu : g.declaration? id = some (.typeDecl u)) (hq : u.qualifiedName = .str q) :
    t.qualifiedName ≠ .str q := by
  obtain ⟨name, hname, hnone⟩ := h.name
  have hid : u.id = id := hdeclared.id_of_declaration? hu
  have hne := hnone u (hdeclared.mem_typeDecls_iff.2 (hid.symm ▸ hu))
  rw [hname]
  exact fun heq => hne (hq.trans heq.symm)

/-- Declarations of other names leave alone what a name leads to. -/
theorem lookup_foldl_insert {ds : List Declaration} (h : ∀ d ∈ ds, nameKey? d ≠ some key) :
    (ds.foldl SymbolGraph.insert g).names.lookup key = g.names.lookup key := by
  induction ds generalizing g with
  | nil => rfl
  | cons d rest ih =>
    obtain ⟨hd, hrest⟩ := List.forall_mem_cons.1 h
    rw [List.foldl_cons, ih hrest]
    exact lookup_registered.trans (if_neg hd)

/-! ### Edges to members and to supertypes -/

theorem WellFormed.foldl_connect {es : List Edge} (h : g.WellFormed) (hfits : ∀ e ∈ es, g.Fits e) :
    (es.foldl SymbolGraph.connect g).WellFormed := by
  induction es generalizing g with
  | nil => exact h
  | cons e rest ih =>
    obtain ⟨he, hrest⟩ := List.forall_mem_cons.1 hfits
    exact ih (h.connect he) fun e' he' => (hrest e' he').connect

theorem memberEdges_foldl_connect (es : List Edge) (g : SymbolGraph) :
    (es.foldl SymbolGraph.connect g).memberEdges =
      g.memberEdges ++ es.filter fun e => !e.kind.isSupertype := by
  rw [memberEdges, Document.edges_foldl_connect, List.filter_append, memberEdges]

/-- The edge to the interface of converters is none to a member. -/
theorem filter_interfaceEdge? (g : SymbolGraph) :
    (g.interfaceEdge?.toList.filter fun e => !e.kind.isSupertype) = [] := by
  rw [List.filter_eq_nil_iff]
  intro e he
  obtain ⟨d, -, rfl⟩ := Option.map_eq_some_iff.1 (Option.mem_toList.1 he)
  simp [EdgeKind.isSupertype]

/-- An edge fits wherever its ends are declared alike. -/
theorem Fits.of_within {e : Edge} (h : g.Fits e) (hwithin : g.Within g') : g'.Fits e := by
  obtain ⟨s, t, hs, ht, hends⟩ := h
  exact ⟨s, t, hwithin _ _ hs, hwithin _ _ ht, hends⟩

end SymbolGraph

namespace Document

open SymbolGraph

variable {g g' : SymbolGraph} {v v' : Value} {edges edges' : List Value} {es es' : List Edge}
  {ds more : List Declaration} {id : Text} {d : Declaration}

/-! ### Declarations and those that are added -/

/-- The declarations of a document and those that are added to them: types that are new to what the
document and the built-in declarations make together. -/
structure Grown (ds more : List Declaration) : Prop where
  together : Together ds
  together' : Together (ds ++ more)
  reservedFree : (ofDeclarations ds).ReservedFree
  new : ∀ d ∈ more, ∃ t, d = .typeDecl t ∧ (base ds).NewTo t

namespace Grown

theorem declaration?_base (h : Grown ds more) (hd : (ofDeclarations ds).declaration? id = some d) :
    (base ds).declaration? id = some d := by
  refine declaration?_withBuiltins hd fun hreserved => ?_
  rw [h.reservedFree id hreserved] at hd
  cases hd

theorem within (h : Grown ds more) : (ofDeclarations ds).Within (ofDeclarations (ds ++ more)) := by
  intro id d hd
  obtain ⟨hmem, hid⟩ := h.together.declaration?_iff.1 hd
  exact h.together'.declaration?_iff.2 ⟨List.mem_append_left _ hmem, hid⟩

/-- What is declared was declared before, or is new. -/
theorem declaration?_cases (h : Grown ds more)
    (hd : (ofDeclarations (ds ++ more)).declaration? id = some d) :
    (ofDeclarations ds).declaration? id = some d ∨
      ∃ t, d = .typeDecl t ∧ t.id = id ∧ (base ds).NewTo t := by
  obtain ⟨hmem, hid⟩ := h.together'.declaration?_iff.1 hd
  rcases List.mem_append.1 hmem with hold | hadded
  · exact .inl (h.together.declaration?_iff.2 ⟨hold, hid⟩)
  · obtain ⟨t, rfl, hnew⟩ := h.new d hadded
    exact .inr ⟨t, rfl, hid, hnew⟩

/-- A name that leads to a type of the document leads to no type that is added. -/
theorem namedWithin (h : Grown ds more) :
    (ofDeclarations ds).NamedWithin (ofDeclarations (ds ++ more)) := by
  intro key id hid
  have hadded : ∀ d ∈ more, nameKey? d ≠ some key := by
    intro d hd hkey
    obtain ⟨t, rfl, hnew⟩ := h.new d hd
    obtain ⟨q, hq, -⟩ := hnew.name
    obtain rfl : Key.str q = key := by simpa [nameKey?, Declaration.qualifiedName?, hq] using hkey
    -- the name is that of a type of the document, so nothing new has it
    obtain ⟨u, hu, hname, -⟩ := h.together.wellFormed.indexed.exists_of_lookup hid
    have hdecl := h.declaration?_base (h.together.wellFormed.declared.mem_typeDecls_iff.1 hu)
    have hname := Value.key?_eq_str_iff.1 hname
    exact hnew.qualifiedName_ne h.together.sound_base.declared hdecl hname hq
  rw [ofDeclarations, List.foldl_append]
  exact (lookup_foldl_insert hadded).trans hid

/-! ### The built-in declarations of both -/

/-- What is added does not take the place of built-in types. -/
theorem lacksSame (h : Grown ds more) :
    (ofDeclarations ds).LacksSame (ofDeclarations (ds ++ more)) := by
  intro q hq
  have hwf := h.together.wellFormed
  rw [Bool.eq_iff_iff]
  constructor
  · intro hlacks
    -- the built-in type has come up in the graph, so its id and its name are not new
    obtain ⟨kind, hbuiltin⟩ := hwf.exists_of_lacks hq hlacks
    obtain ⟨hnames, hnode⟩ := (hwf.lacks_iff q).1 hlacks
    refine (h.together'.wellFormed.lacks_iff q).2 ⟨fun id t ht => ?_, ?_⟩
    · rcases h.declaration?_cases ht with hold | ⟨u, heq, -, hnew⟩
      · exact hnames id t hold
      · cases heq
        exact hnew.qualifiedName_ne h.together.sound_base.declared hbuiltin rfl
    · refine Option.eq_none_iff_forall_ne_some.2 fun d hd => ?_
      rcases h.declaration?_cases hd with hold | ⟨t, -, hid, hnew⟩
      · rw [hnode] at hold
        cases hold
      · exact hnew.ne_of_declaration? hbuiltin hid
  · intro hlacks
    obtain ⟨hnames, hnode⟩ := (h.together'.wellFormed.lacks_iff q).1 hlacks
    refine (hwf.lacks_iff q).2 ⟨fun id t ht => hnames id t (h.within id _ ht), ?_⟩
    refine Option.eq_none_iff_forall_ne_some.2 fun d hd => ?_
    rw [h.within _ _ hd] at hnode
    cases hnode

theorem base_within (h : Grown ds more) : (base ds).Within (base (ds ++ more)) :=
  Within.withBuiltins h.together.wellFormed h.together'.wellFormed h.lacksSame h.within

theorem base_namedWithin (h : Grown ds more) : (base ds).NamedWithin (base (ds ++ more)) :=
  NamedWithin.withBuiltins h.together.wellFormed h.together'.wellFormed h.lacksSame h.namedWithin

theorem wellFormed_base (h : Grown ds more) : (base ds).WellFormed :=
  h.together.wellFormed.withBuiltins h.reservedFree

/-- Where the converter comes up, the reserved ids belong to it in the graph, so they are not new
either; and where it does not come up, it does not matter who has them. -/
theorem wellFormed_base' (h : Grown ds more) : (base (ds ++ more)).WellFormed := by
  have hwf := h.together.wellFormed
  have hwf' := h.together'.wellFormed
  by_cases hlacks : (ofDeclarations ds).lacks Vocabulary.stringConverter = true
  · refine hwf'.withBuiltins fun id hid => Option.eq_none_iff_forall_ne_some.2 fun d hd => ?_
    rcases h.declaration?_cases hd with hold | ⟨t, -, hid', hnew⟩
    · rw [h.reservedFree id hid] at hold
      cases hold
    · obtain ⟨b, -, -, hb⟩ := hwf.declaration?_withBuiltins_of_lacks hlacks hid
      exact hnew.ne_of_declaration? hb hid'
  · rw [base, hwf'.withBuiltins_of_not_lacks (h.lacksSame.stringConverter ▸ hlacks)]
    exact hwf'.withPlainTypes

/-- The same edges come with the built-in converter, if it comes up; the interface of converters may
be a type of the document. -/
theorem mem_edges_base (h : Grown ds more) {e : Edge} (he : e ∈ (base ds).edges) :
    e ∈ (base (ds ++ more)).edges := by
  have hwf := h.together.wellFormed
  have hwf' := h.together'.wellFormed
  rw [base, hwf.edges_withBuiltins h.together.edges, h.lacksSame.stringConverter] at he
  rw [base, hwf'.edges_withBuiltins h.together'.edges]
  split_ifs at he ⊢ with hlacks
  · rcases List.mem_append.1 he with hinterface | hconverter
    · refine List.mem_append_left _ (Option.mem_toList.2 ?_)
      exact interfaceEdge?_of_within hwf hwf' h.lacksSame h.within h.namedWithin
        (Option.mem_toList.1 hinterface)
    · exact List.mem_append_right _ hconverter
  · cases he

theorem memberEdges_base (h : Grown ds more) :
    (base ds).memberEdges = (base (ds ++ more)).memberEdges := by
  rw [memberEdges, memberEdges, base, base, h.together.wellFormed.edges_withBuiltins h.together.edges,
    h.together'.wellFormed.edges_withBuiltins h.together'.edges, h.lacksSame.stringConverter]
  split_ifs
  · rw [List.filter_append, List.filter_append, filter_interfaceEdge?, filter_interfaceEdge?]
  · rfl

/-- An edge that is accepted stays accepted. -/
theorem edge_base (h : Grown ds more) {e : Edge} (he : edge (base ds) v = .ok e) :
    edge (base (ds ++ more)) v = .ok e := by
  obtain ⟨hsaid, hfits⟩ := edge_eq_ok_iff.1 he
  exact edge_eq_ok_iff.2 ⟨hsaid, hfits.of_within h.base_within⟩

end Grown

/-! ### Larger documents -/

/-- Whether an edge of a document leads to a supertype. -/
def leadsToSupertype : Value → Bool
  | .obj members =>
    match Value.member members "type" with
    | .str name => name == EdgeKind.inherits.name || name == EdgeKind.implements.name
    | _ => false
  | _ => false

/-- A document has the nodes of another one, of which `g` is the graph, and behind them types that are
new to that graph; and it has its edges, with further ones to supertypes among them. -/
def Enlarges (g : SymbolGraph) (v v' : Value) : Prop :=
  ∃ nodes edges more edges', parts v = .ok (nodes, edges) ∧ parts v' = .ok (nodes ++ more, edges') ∧
    (∀ node ∈ more, ∃ t, given node = .ok (.typeDecl t) ∧ g.NewTo t) ∧ edges ⊆ edges' ∧
    (edges.filter fun e => !leadsToSupertype e) = edges'.filter fun e => !leadsToSupertype e

theorem leadsToSupertype_of_edge {e : Edge} (h : edge g v = .ok e) :
    leadsToSupertype v = e.kind.isSupertype := by
  obtain ⟨⟨members, rfl, htype, -, -⟩, s, t, -, -, hends⟩ := edge_eq_ok_iff.1 h
  rw [leadsToSupertype, htype]
  cases hkind : e.kind with
  | other label =>
    rw [hkind] at hends
    cases hends
  | _ => simp [EdgeKind.name, EdgeKind.isSupertype]

theorem fits_of_mapM (h : edges.mapM (edge g) = .ok es) :
    ∀ e ∈ es, g.Fits e := by
  intro e he
  obtain ⟨v, -, hedge⟩ := exists_of_mem_mapM h he
  exact (edge_eq_ok_iff.1 hedge).2

theorem Grown.subset_of_edges (h : Grown ds more)
    (hes : edges.mapM (edge (base ds)) = .ok es)
    (hes' : edges'.mapM (edge (base (ds ++ more))) = .ok es') (hsubset : edges ⊆ edges') :
    es ⊆ es' := by
  intro e he
  obtain ⟨v, hv, hedge⟩ := exists_of_mem_mapM hes he
  exact mem_of_mapM hes' (hsubset hv) (h.edge_base hedge)

theorem Grown.filter_of_edges (h : Grown ds more)
    (hes : edges.mapM (edge (base ds)) = .ok es)
    (hes' : edges'.mapM (edge (base (ds ++ more))) = .ok es')
    (hmembers : (edges.filter fun e => !leadsToSupertype e) =
      edges'.filter fun e => !leadsToSupertype e) :
    (es.filter fun e => !e.kind.isSupertype) = es'.filter fun e => !e.kind.isSupertype := by
  have hkind : ∀ (g : SymbolGraph) (edges : List Value), ∀ v ∈ edges, ∀ e, edge g v = .ok e →
      (!leadsToSupertype v) = !e.kind.isSupertype := fun g edges v _ e he => by
    rw [leadsToSupertype_of_edge he]
  have hfilter := mapM_mono (fun _ _ => h.edge_base) (mapM_filter hes (hkind _ edges))
  have hfilter' := mapM_filter hes' (hkind _ edges')
  rwa [hmembers, hfilter', Except.ok.injEq, eq_comm] at hfilter

/-- With the edges of both documents, the graph of the one is part of that of the other. -/
theorem Grown.partOf (h : Grown ds more)
    (hfits : ∀ e ∈ es, (base ds).Fits e) (hfits' : ∀ e ∈ es', (base (ds ++ more)).Fits e)
    (hsubset : es ⊆ es')
    (hmembers : (es.filter fun e => !e.kind.isSupertype) = es'.filter fun e => !e.kind.isSupertype) :
    (es.foldl SymbolGraph.connect (base ds)).PartOf
      (es'.foldl SymbolGraph.connect (base (ds ++ more))) := by
  have hwithin := h.base_within.foldl_connect es es'
  have hnamed := h.base_namedWithin.foldl_connect es es'
  refine ⟨h.wellFormed_base.foldl_connect hfits, h.wellFormed_base'.foldl_connect hfits', hwithin,
    fun _ _ => typeNamed?_of_within hwithin hnamed, ?_, ?_⟩
  · rw [memberEdges_foldl_connect, memberEdges_foldl_connect, h.memberEdges_base, hmembers]
  · rintro id other ⟨e, he, hends⟩
    refine ⟨e, ?_, hends⟩
    rw [edges_foldl_connect, List.mem_append] at he ⊢
    exact he.imp h.mem_edges_base fun hmem => hsubset hmem

/-- **The graph of a document is part of that of a larger one.** -/
theorem partOf_of_enlarges (hread : read v = .ok g) (hread' : read v' = .ok g')
    (havoids : avoidsReserved v = true) (h : Enlarges g v v') : g.PartOf g' := by
  obtain ⟨nodes, edges, added, edges', hparts, hparts', hnew, hsubset, hmembers⟩ := h
  rw [avoidsReserved, nodesOf, hparts, List.all_eq_true] at havoids
  have hdeclared := (read_sound hread).declared
  obtain ⟨ds, es, hds, hnodup, hes, rfl⟩ := (read_eq_ok_iff_of_parts hparts).1 hread
  obtain ⟨all, es', hall, hnodup', hes', rfl⟩ := (read_eq_ok_iff_of_parts hparts').1 hread'
  obtain ⟨more, hmore, rfl⟩ : ∃ more, added.mapM given = .ok more ∧ ds ++ more = all := by
    simpa [List.mapM_append, hds, bind_eq_ok_iff] using hall
  have ht := together hds hnodup
  have hgrown : Grown ds more := by
    refine ⟨ht, together hall hnodup', (nodesRead_ofDeclarations hds hnodup).reservedFree havoids, ?_⟩
    intro d hd
    obtain ⟨node, hnode, hgiven⟩ := exists_of_mem_mapM hmore hd
    obtain ⟨t, ht', hnew⟩ := hnew node hnode
    rw [hgiven, Except.ok.injEq] at ht'
    exact ⟨t, ht', hnew.of_declaration? hdeclared ht.sound_base.declared
      (declaration?_foldl_connect es _)⟩
  exact hgrown.partOf (fits_of_mapM hes) (fits_of_mapM hes') (hgrown.subset_of_edges hes hes' hsubset)
    (hgrown.filter_of_edges hes hes' hmembers)

/-- **Adding declarations only helps.** In the graph of a larger document, holders that were
consistent are so still, with the same properties; preferences that were valid are valid; and what
was assignable is assignable, whatever edges to supertypes were added. -/
theorem enlarged_keeps (hread : read v = .ok g) (hread' : read v' = .ok g')
    (havoids : avoidsReserved v = true) (h : Enlarges g v v') :
    (∀ holder ∈ g.holders, g.isConsistent holder.id = .ok true →
      holder ∈ g'.holders ∧ g'.isConsistent holder.id = .ok true) ∧
    (∀ id, g'.properties id = g.properties id) ∧
    (∀ p : Preference, p.validate g = .ok .valid → p.validate g' = .ok .valid) ∧
    ∀ target source, g.isAssignable target source = .ok true →
      g'.isAssignable target source = .ok true := by
  have hpart := partOf_of_enlarges hread hread' havoids h
  have hkeyed := read_keyed hread
  have hkeyed' := read_keyed hread'
  refine ⟨fun holder hholder hconsistent => ?_, fun id => (hpart.properties_eq id).symm,
    fun p => hpart.validate hkeyed hkeyed', fun _ _ => hpart.isAssignable hkeyed hkeyed'⟩
  exact ⟨hpart.mem_holders hholder, hpart.isConsistent hconsistent⟩

end Document

/-! ### The small document enlarged -/

namespace Sample

/-- The converter that the small document lacks. -/
def zoneConverter : TypeDecl where
  id := "converter"
  name := "ZoneConverter"
  qualifiedName := .str "ZoneConverter"
  kind := .classType
  package := .null
  sourceFile := .null
  annotations := []

/-- The node of a document that gives it. -/
def zoneConverterNode : Value := node "converter" "TypeDecl" [("name", .str "ZoneConverter")]

/-- The edges to supertypes that come with it, two of them in a circle. -/
def addedEdges : List Value :=
  [edge "settings" "later" "INHERITS", edge "later" "settings" "INHERITS",
    edge "converter" "type:kotlin.String" "IMPLEMENTS"]

/-- The small document with that converter. -/
def enlarged : Value :=
  match Document.parts document with
  | .ok (nodes, edges) =>
    .obj [("nodes", .arr (nodes ++ [zoneConverterNode])), ("edges", .arr (addedEdges ++ edges))]
  | .error _ => .null

/-- Its graph. -/
def enlargedGraph : SymbolGraph := graphOf enlarged

theorem read_enlarged : Document.read enlarged = .ok enlargedGraph := read_graphOf (by decide +kernel)

theorem isAssignable_legacy (havoids : Document.avoidsReserved document = true) :
    graph.isAssignable ⟨"kotlin.String", false, []⟩ ⟨"Legacy", false, []⟩ = .ok true := by
  have hwf := (Document.read_wellFormed read_document havoids).1
  obtain ⟨answer, hanswer, hiff⟩ := hwf.isAssignable_of_keyed (Document.read_keyed read_document)
    ⟨"kotlin.String", false, []⟩ ⟨"Legacy", false, []⟩
  have hstep : graph.Extends "legacy" "type:kotlin.String" :=
    ⟨⟨"legacy", "type:kotlin.String", .inherits⟩, by decide +kernel, rfl, rfl, .inl rfl⟩
  rw [hanswer, hiff.2 ⟨.inl rfl, hwf.widens_of_transGen (by decide) (.inl rfl) (by decide +kernel)
    (by decide +kernel) (.single hstep)⟩]

theorem newTo_zoneConverter : graph.NewTo zoneConverter where
  id := by decide +kernel
  name := by
    refine ⟨_, rfl, fun t ht hname => ?_⟩
    have hnone : (graph.typeDecls.all fun t => t.qualifiedName.key? != some (.str "ZoneConverter")) =
        true := by decide +kernel
    have hother := List.all_eq_true.1 hnone t ht
    rw [hname, Value.key?_str] at hother
    simp at hother

theorem enlarges_enlarged : Document.Enlarges graph document enlarged := by
  refine ⟨_, _, [zoneConverterNode], _, rfl, rfl, fun node hnode => ?_, fun e he => ?_, rfl⟩
  · rw [List.mem_singleton.1 hnode]
    exact ⟨zoneConverter, rfl, newTo_zoneConverter⟩
  · exact List.mem_append_right addedEdges he

end Sample

namespace Document

/-- With its converter a holder becomes consistent, and the holder that was consistent stays so, also
in a circle of types. -/
theorem enlarged_keeps_settings : read Sample.document = .ok Sample.graph ∧
    read Sample.enlarged = .ok Sample.enlargedGraph ∧ avoidsReserved Sample.document = true ∧
    Sample.graph.isConsistent "later" = .ok false ∧
    Sample.enlargedGraph.isConsistent "later" = .ok true ∧
    Sample.enlargedGraph.isConsistent "settings" = .ok true ∧
    Sample.enlargedGraph.isAssignable ⟨"kotlin.String", false, []⟩ ⟨"Legacy", false, []⟩ =
      .ok true := by
  have havoids : avoidsReserved Sample.document = true := by decide +kernel
  obtain ⟨hholders, -, -, hassignable⟩ := enlarged_keeps Sample.read_document Sample.read_enlarged
    havoids Sample.enlarges_enlarged
  have hsettings : (Sample.graph.holders.any fun t => t.id == ("settings" : Text)) = true := by decide +kernel
  obtain ⟨holder, hholder, hid⟩ := List.any_eq_true.1 hsettings
  rw [beq_iff_eq] at hid
  have hconsistent : Sample.graph.isConsistent "settings" = .ok true :=
    eq_ok_of_toOption (by decide +kernel)
  refine ⟨Sample.read_document, Sample.read_enlarged, havoids, eq_ok_of_toOption (by decide +kernel),
    eq_ok_of_toOption (by decide +kernel), ?_, hassignable _ _ (Sample.isAssignable_legacy havoids)⟩
  exact hid ▸ (hholders holder hholder (hid.symm ▸ hconsistent)).2

end Document

end KotlinPreferences
