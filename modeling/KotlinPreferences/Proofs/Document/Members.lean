import KotlinPreferences.Proofs.Document.View
import KotlinPreferences.Proofs.SymbolGraph.Members

/-!
# Members in the order of a document

The edges of a node are kept by the node at their other end, and an edge of any kind keeps the place.
Yet a document fixes the order of all members by the edges to them alone, for between two nodes there
are never edges to a member and others as well.

* `Document.Joins`: the edges of a document, with the kinds that can be named in one;
* `Document.Contains`: the declarations and the edges of a document, the built-in ones among them;
* `contains_of_read`, `Contains.unique`: they are what the graph holds, and there are no others;
* `Document.Listed`: some members are those of some ids;
* `Document.members_of_read`: the members of the declarations of a document.
-/

namespace KotlinPreferences

namespace Document

open SymbolGraph

variable {g : SymbolGraph} {v : Value} {ds ds' : List Declaration} {es es' : List Edge}

/-! ### Declarations and edges -/

/-- An edge of a document says what it joins, and its kind is one that prescribes its ends. -/
def Joins (v : Value) (e : Edge) : Prop := Says v e ∧ e.kind.ends?.isSome = true

/-- An edge of a document is one edge only. -/
theorem Joins.unique {e e' : Edge} (h : Joins v e) (h' : Joins v e') : e = e' := by
  obtain ⟨⟨members, rfl, htype, hsource, htarget⟩, hends⟩ := h
  obtain ⟨⟨members', hobj, htype', hsource', htarget'⟩, hends'⟩ := h'
  cases hobj
  rw [htype, Value.str.injEq] at htype'
  have hkind : edgeKind (.str e.kind.name) = .ok e.kind := edgeKind_eq_ok_iff.2 ⟨rfl, hends⟩
  have hkind' : edgeKind (.str e'.kind.name) = .ok e'.kind := edgeKind_eq_ok_iff.2 ⟨rfl, hends'⟩
  rw [htype', hkind', Except.ok.injEq] at hkind
  rw [hsource, Value.str.injEq] at hsource'
  rw [htarget, Value.str.injEq] at htarget'
  cases e
  cases e'
  cases hsource'
  cases htarget'
  cases hkind
  rfl

/-- The declarations and the edges of a document with a graph, in its order. The built-in declarations
come behind all others, and their edges in front. -/
def Contains (v : Value) (g : SymbolGraph) (ds : List Declaration) (es : List Edge) : Prop :=
  ∃ nodes edges own joined, parts v = .ok (nodes, edges) ∧ List.Forall₂ Gives nodes own ∧
    List.Forall₂ Joins edges joined ∧ ds = own ++ builtins own ∧ es = builtinEdges g own ++ joined

theorem Contains.unique (h : Contains v g ds es) (h' : Contains v g ds' es') : ds = ds' ∧ es = es' := by
  obtain ⟨nodes, edges, own, joined, hparts, hgives, hjoins, rfl, rfl⟩ := h
  obtain ⟨_, _, own', joined', hparts', hgives', hjoins', rfl, rfl⟩ := h'
  rw [hparts, Except.ok.injEq, Prod.mk.injEq] at hparts'
  obtain ⟨rfl, rfl⟩ := hparts'
  have hgiven : Relator.RightUnique Gives := fun _ _ _ => Gives.unique
  have hjoined : Relator.RightUnique Joins := fun _ _ _ => Joins.unique
  rw [List.right_unique_forall₂' hgiven hgives hgives',
    List.right_unique_forall₂' hjoined hjoins hjoins']
  exact ⟨rfl, rfl⟩

/-- The graph of an accepted document holds what the document contains. -/
theorem contains_of_read (h : read v = .ok g) (havoids : avoidsReserved v = true) :
    ∃ ds es, Contains v g ds es ∧ g.nodes = ds.map Declaration.node ∧ g.edges = es := by
  obtain ⟨nodes, edges, own, joined, hparts, hgives, hmeant, hnodes, hedges⟩ :=
    contents_of_read h havoids
  have hends : ∀ e ∈ joined, e.kind.ends?.isSome = true := by
    intro e he
    have hmem : e ∈ g.edges := by
      rw [hedges]
      exact List.mem_append_right _ he
    obtain ⟨s, t, -, -, hkind⟩ := (read_wellFormed h havoids).1.fitting e hmem
    rw [hkind]
    rfl
  have hjoins : List.Forall₂ Joins edges joined := by
    refine List.forall₂_iff_zip.2 ⟨hmeant.length_eq, fun {a e} hmem => ?_⟩
    exact ⟨List.forall₂_iff_zip.1 hmeant |>.2 hmem, hends e (List.of_mem_zip hmem).2⟩
  exact ⟨_, _, ⟨nodes, edges, own, joined, hparts, hgives, hjoins, rfl, rfl⟩, hnodes, hedges⟩

theorem Contains.of_read (hcontains : Contains v g ds es) (h : read v = .ok g)
    (havoids : avoidsReserved v = true) : g.nodes = ds.map Declaration.node ∧ g.edges = es := by
  obtain ⟨ds', es', hcontains', hnodes, hedges⟩ := contains_of_read h havoids
  obtain ⟨rfl, rfl⟩ := hcontains.unique hcontains'
  exact ⟨hnodes, hedges⟩

theorem typeDecl_mem_of_nodes (hdeclared : g.Declared) (hnodes : g.nodes = ds.map Declaration.node)
    {id : Text} {t : TypeDecl} (h : (g.declaration? id).bind Declaration.typeDecl? = some t) :
    .typeDecl t ∈ ds ∧ t.id = id := by
  obtain ⟨d, hd, hdt⟩ := Option.bind_eq_some_iff.1 h
  cases d <;> cases hdt
  exact (declaration?_iff_of_nodes hdeclared hnodes).1 hd

theorem function_mem_of_nodes (hdeclared : g.Declared) (hnodes : g.nodes = ds.map Declaration.node)
    {id : Text} {f : Function} (h : (g.declaration? id).bind Declaration.function? = some f) :
    .function f ∈ ds ∧ f.id = id := by
  obtain ⟨d, hd, hdf⟩ := Option.bind_eq_some_iff.1 h
  cases d <;> cases hdf
  exact (declaration?_iff_of_nodes hdeclared hnodes).1 hd

/-! ### Members -/

/-- Some members are the declarations of some ids. An id that is repeated is listed where it comes up
first, in a row as often as it is there. -/
def Listed (ds : List Declaration) (ids : List Text) (members : List Declaration) : Prop :=
  List.Forall₂ (fun id d => d ∈ ds ∧ d.id = id) (runs ids) members

theorem Listed.map_id {ids : List Text} {members : List Declaration} (h : Listed ds ids members) :
    members.map Declaration.id = runs ids := by
  unfold Listed at h
  generalize runs ids = listed at h
  induction h with
  | nil => rfl
  | cons hd _ ih => rw [List.map_cons, ih, hd.2]

theorem declaration_eq_ok_iff {id : Text} {d : Declaration} :
    g.declaration id = .ok d ↔ g.declaration? id = some d := by
  unfold SymbolGraph.declaration SymbolGraph.declaration?
  cases g.node? id with
  | none => simp
  | some n => simp [orFail_eq_ok_iff]

/-- **The members of the declarations of a document.** The properties of a type are the targets of its
property edges, in the order of the edges. A property that has more than one edge is listed where the
first of them stands, once for each. The targets of its function edges, listed in the same way, are its
functions and its constructors, each in that order; and so are the sources of the parameter edges into
a function its parameters. If no edge is repeated, then no member is, and the members stand just as in
the document, whatever other edges stand between theirs. -/
theorem members_of_read (h : read v = .ok g) (havoids : avoidsReserved v = true) :
    ∃ ds es, Contains v g ds es ∧ (ds.map Declaration.id).Nodup ∧
      (∀ t, .typeDecl t ∈ ds → ∃ (properties : List Declaration) (callables : List Function),
        g.properties t.id = .ok properties ∧
        Listed ds (targetsIn es t.id .hasProperty) properties ∧
        g.functions t.id = .ok (callables.filter fun f => !f.isConstructor) ∧
        g.constructors t.id = .ok (callables.filter Function.isConstructor) ∧
        Listed ds (targetsIn es t.id .hasFunction) (callables.map .function)) ∧
      (∀ f, .function f ∈ ds → ∃ parameters, g.parameters f.id = .ok parameters ∧
        Listed ds (sourcesIn es f.id .paramOf) parameters) ∧
      (es.Nodup → ∀ id kind, runs (targetsIn es id kind) = targetsIn es id kind ∧
        runs (sourcesIn es id kind) = sourcesIn es id kind) := by
  obtain ⟨ds, es, hcontains, hnodes, rfl⟩ := contains_of_read h havoids
  have hwf := (read_wellFormed h havoids).1
  have hdeclared : ∀ {id d}, g.declaration id = .ok d → d ∈ ds ∧ d.id = id := fun hd =>
    (declaration?_iff_of_nodes hwf.declared hnodes).1 (declaration_eq_ok_iff.1 hd)
  have htargets : ∀ {kind}, kind.isSupertype = false → ∀ id,
      Listed ds (targetsIn g.edges id kind) (g.targetsOf id kind) := fun hkind id =>
    (hwf.forall₂_targetsOf hkind id).imp fun _ _ => hdeclared
  refine ⟨ds, g.edges, hcontains, ids_of_nodes hnodes ▸ hwf.declared.nodup, fun t _ => ?_,
    fun f _ => ?_, fun hnodup id kind => ?_⟩
  · refine ⟨g.targetsOf t.id .hasProperty, g.functionsOf t.id, hwf.sound.properties_eq t.id,
      htargets rfl t.id, ?_, ?_, ?_⟩
    · rw [functions, hwf.sound.callables_eq, ok_bind, pure_eq_ok]
    · rw [constructors, hwf.sound.callables_eq, ok_bind, pure_eq_ok]
    · rw [hwf.sound.map_functionsOf]
      exact htargets rfl t.id
  · exact ⟨g.sourcesOf f.id .paramOf, hwf.sound.sources_eq rfl f.id,
      (hwf.forall₂_sourcesOf rfl f.id).imp fun _ _ => hdeclared⟩
  · exact ⟨runs_of_nodup (nodup_targetsIn hnodup id kind),
      runs_of_nodup (nodup_sourcesIn hnodup id kind)⟩

end Document

namespace Sample

/-- A class of which the edges stand in no order of their kinds, two of them twice. -/
def interleaved : Value :=
  .obj
    [("nodes", .arr
      [node "box" "TypeDecl" [("name", .str "Box")],
        node "a" "Property" [("name", .str "a")], node "b" "Property" [("name", .str "b")],
        node "read" "Function" [("name", .str "read")],
        node "make" "Function" [("name", .str "make"), ("is_constructor", .bool true)],
        node "p" "Parameter" [("name", .str "p")], node "q" "Parameter" [("name", .str "q")]]),
      ("edges", .arr
        [edge "box" "b" "HAS_PROPERTY", edge "p" "read" "PARAM_OF", edge "box" "read" "HAS_FUNCTION",
          edge "box" "type:kotlin.Any" "INHERITS", edge "box" "a" "HAS_PROPERTY",
          edge "q" "read" "PARAM_OF", edge "box" "make" "HAS_FUNCTION",
          edge "box" "b" "HAS_PROPERTY", edge "p" "read" "PARAM_OF"])]

end Sample

namespace Document

open SymbolGraph

/-- What stands twice is listed twice in a row, where it stands first. -/
theorem members_of_interleaved :
    read Sample.interleaved = .ok (Sample.graphOf Sample.interleaved) ∧
    avoidsReserved Sample.interleaved = true ∧
    ∃ properties parameters : List Declaration,
      (Sample.graphOf Sample.interleaved).properties "box" = .ok properties ∧
      properties.map Declaration.id = ["b", "b", "a"] ∧
      (Sample.graphOf Sample.interleaved).parameters "read" = .ok parameters ∧
      parameters.map Declaration.id = ["p", "p", "q"] := by
  have hread : read Sample.interleaved = .ok (Sample.graphOf Sample.interleaved) :=
    Sample.read_graphOf (by decide +kernel)
  have havoids : avoidsReserved Sample.interleaved = true := by decide +kernel
  obtain ⟨ds, es, hcontains, -, htypes, hfunctions, -⟩ := members_of_read hread havoids
  obtain ⟨hnodes, hedges⟩ := hcontains.of_read hread havoids
  have hdeclared := (read_wellFormed hread havoids).1.declared
  have hbox : (((Sample.graphOf Sample.interleaved).declaration? "box").bind
      Declaration.typeDecl?).isSome = true := by decide +kernel
  have hfunction : (((Sample.graphOf Sample.interleaved).declaration? "read").bind
      Declaration.function?).isSome = true := by decide +kernel
  obtain ⟨t, ht⟩ := Option.isSome_iff_exists.1 hbox
  obtain ⟨f, hf⟩ := Option.isSome_iff_exists.1 hfunction
  obtain ⟨ht, htid⟩ := typeDecl_mem_of_nodes hdeclared hnodes ht
  obtain ⟨hf, hfid⟩ := function_mem_of_nodes hdeclared hnodes hf
  obtain ⟨properties, -, hproperties, hlisted, -⟩ := htypes t ht
  obtain ⟨parameters, hparameters, hsources⟩ := hfunctions f hf
  rw [htid] at hproperties hlisted
  rw [hfid] at hparameters hsources
  have htargets : runs (targetsIn (Sample.graphOf Sample.interleaved).edges "box" .hasProperty) =
      ["b", "b", "a"] := by decide +kernel
  have hinto : runs (sourcesIn (Sample.graphOf Sample.interleaved).edges "read" .paramOf) =
      ["p", "p", "q"] := by decide +kernel
  rw [← hedges] at hlisted hsources
  exact ⟨hread, havoids, properties, parameters, hproperties, hlisted.map_id.trans htargets,
    hparameters, hsources.map_id.trans hinto⟩

end Document

end KotlinPreferences
