import KotlinPreferences.Proofs.Document.Graph

/-!
# What the built-in declarations leave of a document

The built-in types make room for the document: they come up only under ids and names that are free.
The functions of the built-in converter and their parameters do not. They take the ids reserved for
them, and what the document declared there is replaced, unless the document brings the converter
itself.

* `Builtin.reserved`: what stands under the reserved ids;
* `SymbolGraph.GrowsBy`: a graph with new nodes behind those of another one;
* `Document.DeclaresConverter`: a document brings the converter of texts itself;
* `Document.declarations_of_read`: what becomes of the declarations of a document;
* `Document.replaced_property`: a property that is replaced.
-/

namespace KotlinPreferences

namespace Builtin

/-- What is declared under the reserved ids. -/
def reserved : List Declaration :=
  [converterFunction "parse", converterParameter "parse", converterFunction "format",
    converterParameter "format"]

/-- The ids under which something built-in may come up. -/
def ids : List Text :=
  [typeId Vocabulary.anyType, typeId Vocabulary.stringType, typeId Vocabulary.converterInterface,
    typeId Vocabulary.stringConverter] ++ reservedIds

/-- A declaration takes the id or the name of the built-in converter. -/
def IsConverter (d : Declaration) : Prop :=
  d.id = typeId Vocabulary.stringConverter ∨
    d.qualifiedName? = some (.str Vocabulary.stringConverter)

theorem typeId_injective : Function.Injective typeId := fun q r h => by
  simpa [typeId] using h

end Builtin

namespace SymbolGraph

variable {g g' g'' : SymbolGraph} {id : Text} {ids : List Text} {d : Declaration}

/-! ### New nodes -/

/-- The nodes of a graph, and behind them new ones under some of the given ids. -/
def GrowsBy (ids : List Text) (g g' : SymbolGraph) : Prop :=
  ∃ added, g'.nodes.map Node.id = g.nodes.map Node.id ++ added ∧ ∀ id ∈ added, id ∈ ids

theorem GrowsBy.refl (ids : List Text) (g : SymbolGraph) : GrowsBy ids g g :=
  ⟨[], (List.append_nil _).symm, by simp⟩

theorem GrowsBy.trans (h : GrowsBy ids g g') (h' : GrowsBy ids g' g'') : GrowsBy ids g g'' := by
  obtain ⟨added, heq, hadded⟩ := h
  obtain ⟨further, heq', hfurther⟩ := h'
  refine ⟨added ++ further, by rw [heq', heq, List.append_assoc], ?_⟩
  intro id hid
  rcases List.mem_append.1 hid with hid | hid
  · exact hadded id hid
  · exact hfurther id hid

theorem growsBy_insert (hid : d.id ∈ ids) : GrowsBy ids g (g.insert d) := by
  by_cases hin : g.hasNode d.id = true
  · exact ⟨[], by rw [ids_insert_of_hasNode hin, List.append_nil], by simp⟩
  · refine ⟨[d.id], ?_, by simpa using hid⟩
    rw [nodes_insert_of_new (by simpa using hin), List.map_append]
    rfl

theorem growsBy_connect {e : Edge} (hs : g.hasNode e.source = true)
    (ht : g.hasNode e.target = true) : GrowsBy ids g (g.connect e) :=
  ⟨[], by rw [nodes_connect hs ht, List.append_nil], by simp⟩

theorem growsBy_withType {qualifiedName : Text} (kind : TypeKind)
    (hid : Builtin.typeId qualifiedName ∈ ids) : GrowsBy ids g (g.withType qualifiedName kind) := by
  rcases withType_cases g qualifiedName kind with ⟨-, heq⟩ | heq
  · rw [heq]
    exact growsBy_insert hid
  · rw [heq]
    exact .refl ids g

theorem WellFormed.growsBy_withConverterInterface (h : g.WellFormed) (hsc : g.HasStringConverter) :
    GrowsBy ids g g.withConverterInterface := by
  unfold SymbolGraph.withConverterInterface
  split
  · rename_i d hd
    have htarget := hasNode_of_declaration? (declaration?_of_typeNamed? h.declared hd)
    exact growsBy_connect hsc.hasNode htarget
  · exact .refl ids g

theorem growsBy_withConverterFunction {name : Text} (hsc : g.HasStringConverter)
    (hf : Builtin.functionId name ∈ ids) (hp : Builtin.parameterId name ∈ ids) :
    GrowsBy ids g (g.withConverterFunction name) := by
  unfold withConverterFunction
  refine (((growsBy_insert ?_).trans (growsBy_connect ?_ ?_)).trans (growsBy_insert ?_)).trans
    (growsBy_connect ?_ ?_)
  · exact hf
  · simp [hasNode_insert, hsc.hasNode]
  · simp [hasNode_insert, Declaration.id]
  · exact hp
  · simp [hasNode_insert, Declaration.id]
  · simp [hasNode_insert, hasNode_connect]

/-! ### Free names -/

/-- A type of another name leaves a name free or taken. -/
theorem WellFormed.lacks_withType (h : g.WellFormed) {other qualifiedName : Text}
    (hne : qualifiedName ≠ other) (kind : TypeKind) :
    (g.withType other kind).lacks qualifiedName = g.lacks qualifiedName := by
  rcases withType_cases g other kind with ⟨hnew, heq⟩ | heq
  · have hwf := h.withType other kind
    rw [heq] at hwf ⊢
    have hnode : (g.insert (.typeDecl (Builtin.typeDecl other kind))).hasNode
        (Builtin.typeId qualifiedName) = g.hasNode (Builtin.typeId qualifiedName) := by
      rw [hasNode_insert, decide_eq_false, Bool.false_or]
      exact fun hid => hne (Builtin.typeId_injective hid)
    have hname : ¬ (Builtin.typeDecl other kind).qualifiedName.key? = some (.str qualifiedName) := by
      simpa [Builtin.typeDecl] using hne.symm
    rw [lacks, hnode, typeNamed?_eq_find? hwf.declared hwf.indexed,
      typeDecls_insert_of_new hnew, lacks, typeNamed?_eq_find? h.declared h.indexed]
    simp [Declaration.typeDecl?, hname]
  · rw [heq]

/-- The built-in converter is lacking where nothing takes its id or its name. -/
theorem WellFormed.lacks_stringConverter_iff (h : g.WellFormed) :
    g.lacks Vocabulary.stringConverter = true ↔
      ∀ id d, g.declaration? id = some d → ¬ Builtin.IsConverter d := by
  have hname : g.typeNamed? (.str Vocabulary.stringConverter) = none ↔
      ∀ t ∈ g.typeDecls, t.qualifiedName ≠ .str Vocabulary.stringConverter := by
    simpa [typeOf] using typeOf_eq_none_iff h Vocabulary.stringConverter
  simp only [lacks, Bool.and_eq_true, Option.isNone_iff_eq_none, Bool.not_eq_true', hname]
  constructor
  · rintro ⟨hnames, hnode⟩ id d hd (hid | hqualified)
    · rw [← hid, h.declared.id_of_declaration? hd, hasNode_of_declaration? hd] at hnode
      cases hnode
    · cases d with
      | typeDecl t =>
        have hid : t.id = id := h.declared.id_of_declaration? hd
        rw [← hid] at hd
        exact hnames t (h.declared.mem_typeDecls_iff.2 hd) (Option.some.inj hqualified)
      | property | function | parameter => cases hqualified
  · intro hall
    constructor
    · intro t ht hqualified
      exact hall t.id _ (h.declared.mem_typeDecls_iff.1 ht) (.inr (congrArg some hqualified))
    · apply h.declared.hasNode_eq_false
      by_contra hsome
      obtain ⟨d, hd⟩ := Option.ne_none_iff_exists'.1 hsome
      exact hall _ d hd (.inl (h.declared.id_of_declaration? hd))

/-! ### All built-in declarations -/

/-- The graph with the built-in types, apart from the converter. -/
def withPlainTypes (g : SymbolGraph) : SymbolGraph :=
  ((g.withType Vocabulary.anyType .classType).withType Vocabulary.stringType .classType).withType
    Vocabulary.converterInterface .interface

theorem withBuiltins_eq (g : SymbolGraph) :
    g.withBuiltins = g.withPlainTypes.withStringConverter := rfl

theorem WellFormed.withPlainTypes (h : g.WellFormed) : g.withPlainTypes.WellFormed :=
  ((h.withType _ _).withType _ _).withType _ _

theorem ReservedFree.withPlainTypes (h : g.ReservedFree) : g.withPlainTypes.ReservedFree :=
  ((h.withType _ _).withType _ _).withType _ _

theorem growsBy_withPlainTypes : GrowsBy Builtin.ids g g.withPlainTypes :=
  ((growsBy_withType _ (by simp [Builtin.ids])).trans
    (growsBy_withType _ (by simp [Builtin.ids]))).trans (growsBy_withType _ (by simp [Builtin.ids]))

/-- The other built-in types leave the name of the converter alone. -/
theorem WellFormed.lacks_withPlainTypes (h : g.WellFormed) :
    g.withPlainTypes.lacks Vocabulary.stringConverter = g.lacks Vocabulary.stringConverter := by
  rw [SymbolGraph.withPlainTypes, ((h.withType _ _).withType _ _).lacks_withType (by decide),
    (h.withType _ _).lacks_withType (by decide), h.lacks_withType (by decide)]

theorem declaration?_withPlainTypes (hd : g.declaration? id = some d) :
    g.withPlainTypes.declaration? id = some d :=
  declaration?_withType (declaration?_withType (declaration?_withType hd _ _) _ _) _ _

/-- The built-in declarations come up behind all others, under ids of their own. -/
theorem WellFormed.growsBy_withBuiltins (h : g.WellFormed) :
    GrowsBy Builtin.ids g g.withBuiltins := by
  rw [withBuiltins_eq]
  refine growsBy_withPlainTypes.trans ?_
  have hplain := h.withPlainTypes
  unfold SymbolGraph.withStringConverter
  split
  · rename_i hlacks
    have hsc := hasStringConverter_withType hlacks
    have htype := hplain.withType Vocabulary.stringConverter .classType
    have hinterface := hsc.withConverterInterface
    have hmem : ∀ id ∈ Builtin.reservedIds, id ∈ Builtin.ids := fun id hid =>
      List.mem_append_right _ hid
    refine (((growsBy_withType _ ?_).trans (htype.growsBy_withConverterInterface hsc)).trans
      (growsBy_withConverterFunction hinterface ?_ ?_)).trans
      (growsBy_withConverterFunction (hinterface.withConverterFunction _) ?_ ?_)
    · simp [Builtin.ids]
    · exact hmem _ (by simp [Builtin.reservedIds])
    · exact hmem _ (by simp [Builtin.reservedIds])
    · exact hmem _ (by simp [Builtin.reservedIds])
    · exact hmem _ (by simp [Builtin.reservedIds])
  · exact .refl _ _

/-- Where the graph has the converter already, everything in it stays. -/
theorem WellFormed.declaration?_withBuiltins_of_not_lacks (h : g.WellFormed)
    (hlacks : ¬ g.lacks Vocabulary.stringConverter = true) (hd : g.declaration? id = some d) :
    g.withBuiltins.declaration? id = some d := by
  rw [withBuiltins_eq, SymbolGraph.withStringConverter, h.lacks_withPlainTypes, if_neg hlacks]
  exact declaration?_withPlainTypes hd

/-- Where the graph lacks the converter, the reserved ids belong to it afterwards. -/
theorem WellFormed.declaration?_withBuiltins_of_lacks (h : g.WellFormed)
    (hlacks : g.lacks Vocabulary.stringConverter = true) (hid : id ∈ Builtin.reservedIds) :
    ∃ b ∈ Builtin.reserved, b.id = id ∧ g.withBuiltins.declaration? id = some b := by
  rw [withBuiltins_eq, SymbolGraph.withStringConverter, h.lacks_withPlainTypes, if_pos hlacks]
  simp only [declaration?_withConverterFunction]
  simp only [Builtin.reservedIds, List.mem_cons, List.not_mem_nil, or_false] at hid
  -- the ids are texts that are written out, so they are told apart by looking at them
  rcases hid with rfl | rfl | rfl | rfl
  · refine ⟨Builtin.converterFunction "parse", by simp [Builtin.reserved], rfl, ?_⟩
    rw [if_neg (by decide), if_neg (by decide), if_neg (by decide), if_pos rfl]
  · refine ⟨Builtin.converterParameter "parse", by simp [Builtin.reserved], rfl, ?_⟩
    rw [if_neg (by decide), if_neg (by decide), if_pos rfl]
  · refine ⟨Builtin.converterFunction "format", by simp [Builtin.reserved], rfl, ?_⟩
    rw [if_neg (by decide), if_pos rfl]
  · refine ⟨Builtin.converterParameter "format", by simp [Builtin.reserved], rfl, ?_⟩
    rw [if_pos rfl]

end SymbolGraph

namespace Document

open SymbolGraph

variable {g : SymbolGraph} {v : Value}

/-- A document brings the converter of texts itself: one of its nodes takes the id or the name. -/
def DeclaresConverter (v : Value) : Prop :=
  ∃ node ∈ nodesOf v, ∃ d, Gives node d ∧ Builtin.IsConverter d

/-- The edges of a document bring no nodes. -/
theorem nodes_of_edges {edges : List Value} {base : SymbolGraph}
    (h : edges.foldlM addEdge base = .ok g) : g.nodes = base.nodes := by
  refine foldlM_invariant (fun _ g => g.nodes = base.nodes) rfl ?_ h
  intro done v g g' _ hnodes hstep
  obtain ⟨e, -, hfit, rfl⟩ := addEdge_cases hstep
  rw [nodes_connect hfit.hasNode_source hfit.hasNode_target, hnodes]

theorem NodesRead.lacks_iff {nodes : List Value} (h : NodesRead nodes g) :
    g.lacks Vocabulary.stringConverter = true ↔
      ¬ ∃ node ∈ nodes, ∃ d, Gives node d ∧ Builtin.IsConverter d := by
  rw [h.wellFormed.lacks_stringConverter_iff]
  constructor
  · rintro hall ⟨node, hnode, d, hgives, hconverter⟩
    obtain ⟨d', hgives', hd'⟩ := h.declared node hnode
    rw [hgives.unique hgives'] at hconverter
    exact hall _ d' hd' hconverter
  · intro hnone id d hd hconverter
    obtain ⟨node, hnode, hgives⟩ := h.given id d hd
    exact hnone ⟨node, hnode, d, hgives, hconverter⟩

theorem NodesRead.mem_ids_iff {nodes : List Value} (h : NodesRead nodes g) {id : Text} :
    id ∈ g.nodes.map Node.id ↔ ∃ node ∈ nodes, ∃ d, Gives node d ∧ d.id = id := by
  rw [← hasNode_iff]
  constructor
  · intro hnode
    obtain ⟨d, hd, hid⟩ := h.wellFormed.declared.exists_declaration? hnode
    obtain ⟨node, hmem, hgives⟩ := h.given id d hd
    exact ⟨node, hmem, d, hgives, hid⟩
  · rintro ⟨node, hmem, d, hgives, rfl⟩
    obtain ⟨d', hgives', hd'⟩ := h.declared node hmem
    rw [hgives.unique hgives']
    exact hasNode_of_declaration? hd'

/-- **What becomes of the declarations of a document.** A declaration of the document stands under
its id, with its kind, unless the id is one of those reserved for the built-in converter and the
document does not bring the converter itself: then a function of the converter or its parameter
stands there instead. Everything else that is built-in comes up behind the nodes of the document,
under ids that the document does not use. -/
theorem declarations_of_read (h : read v = .ok g) :
    (∀ node ∈ nodesOf v, ∃ d, Gives node d ∧
      (d.id ∉ Builtin.reservedIds ∨ DeclaresConverter v →
        g.declaration d.id = .ok d ∧ g.nodeKind d.id = .ok (some d.kind)) ∧
      (d.id ∈ Builtin.reservedIds → ¬ DeclaresConverter v →
        ∃ b ∈ Builtin.reserved, b.id = d.id ∧ g.declaration d.id = .ok b)) ∧
    ∃ own added, g.nodes.map Node.id = own ++ added ∧
      (∀ id, id ∈ own ↔ ∃ node ∈ nodesOf v, ∃ d, Gives node d ∧ d.id = id) ∧
      ∀ id ∈ added, id ∈ Builtin.ids ∧ id ∉ own := by
  obtain ⟨nodes, edges, g₀, hparts, hnodes, hedges⟩ := read_cases h
  have hnodesOf := nodesOf_eq hparts
  have hread := nodesRead hnodes
  have hdecl := (edgesRead hedges).2.2
  have hlacks : g₀.lacks Vocabulary.stringConverter = true ↔ ¬ DeclaresConverter v := by
    rw [DeclaresConverter, hnodesOf]
    exact hread.lacks_iff
  rw [hnodesOf]
  constructor
  · intro node hnode
    obtain ⟨d, hgives, hd⟩ := hread.declared node hnode
    refine ⟨d, hgives, ?_, ?_⟩
    · intro hkept
      have hstays : g₀.withBuiltins.declaration? d.id = some d := by
        rcases hkept with hid | hconverter
        · exact declaration?_withBuiltins hd hid
        · exact hread.wellFormed.declaration?_withBuiltins_of_not_lacks
            (fun hl => hlacks.1 hl hconverter) hd
      have hfinal := (hdecl d.id).trans hstays
      exact ⟨declaration_of_declaration? hfinal, nodeKind_of_declaration? hfinal⟩
    · intro hid hnone
      obtain ⟨b, hb, hbid, hreplaced⟩ :=
        hread.wellFormed.declaration?_withBuiltins_of_lacks (hlacks.2 hnone) hid
      exact ⟨b, hb, hbid, declaration_of_declaration? ((hdecl d.id).trans hreplaced)⟩
  · obtain ⟨added, hadded, hids⟩ := hread.wellFormed.growsBy_withBuiltins
    have hnodup := (read_sound h).declared.nodup
    rw [nodes_of_edges hedges, hadded] at hnodup
    refine ⟨g₀.nodes.map Node.id, added, by rw [nodes_of_edges hedges, hadded],
      fun id => hread.mem_ids_iff, fun id hid => ⟨hids id hid, fun hown => ?_⟩⟩
    exact (List.nodup_append.1 hnodup).2.2 id hown id hid rfl

/-- The sample uses none of the reserved ids, so the graph has all that it declares. -/
theorem declarations_of_sample : read Sample.document = .ok Sample.graph ∧
    ∀ node ∈ nodesOf Sample.document, ∃ d, Gives node d ∧
      Sample.graph.declaration d.id = .ok d ∧ Sample.graph.nodeKind d.id = .ok (some d.kind) := by
  have havoids : ((nodesOf Sample.document).all avoidsReservedIds) = true := by decide +kernel
  refine ⟨Sample.read_document, fun node hnode => ?_⟩
  obtain ⟨d, hgives, hkept, -⟩ := (declarations_of_read Sample.read_document).1 node hnode
  have hid := not_mem_reservedIds_of_gives hgives (List.all_eq_true.1 havoids node hnode)
  exact ⟨d, hgives, hkept (.inl hid)⟩

/-- A document that declares a property under the id of the reading function of the built-in
converter, and nothing else. -/
def parseDocument : Value :=
  .obj [("nodes", .arr [Sample.node (Builtin.functionId "parse") "Property"
    [("name", .str "parse"), ("type", .str "kotlin.Int")]]), ("edges", .arr [])]

/-- The property gives way to the function of the converter, though the document declares it. -/
theorem replaced_property :
    read parseDocument = .ok (Sample.graphOf parseDocument) ∧
      ∃ node ∈ nodesOf parseDocument, ∃ d, Gives node d ∧ d.kind = .property ∧
        (Sample.graphOf parseDocument).nodeKind d.id = .ok (some .function) := by
  have hattrs : (declaration .property (Builtin.functionId "parse")
      (.obj [("name", .str "parse"), ("type", .str "kotlin.Int")])).toOption.isSome = true := by
    decide +kernel
  obtain ⟨d, hd⟩ := Option.isSome_iff_exists.1 hattrs
  replace hd := eq_ok_of_toOption hd
  obtain ⟨hkind, hid⟩ := kind_id_of_declaration hd
  refine ⟨Sample.read_graphOf (by decide +kernel), _, List.mem_singleton_self _, d, ?_, hkind, ?_⟩
  · refine ⟨_, rfl, by rw [hid]; rfl, by rw [hkind]; rfl, ?_⟩
    rw [hkind, hid]
    exact hd
  · rw [hid]
    exact eq_ok_of_toOption (by decide +kernel)

end Document

end KotlinPreferences
