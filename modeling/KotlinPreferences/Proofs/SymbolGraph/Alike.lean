import KotlinPreferences.Pass
import KotlinPreferences.Proofs.SymbolGraph.Members
import KotlinPreferences.Proofs.SymbolGraph.Supertypes

/-!
# Graphs that are read alike

A pass does not see the order of the nodes of a graph, apart from the order of its holders. Neither
does it see the order of the edges, apart from that of the edges out of one node. So two graphs that
differ in nothing else are interchangeable.

* `Alike`: the graphs declare and name the same, and have the same edges out of each node;
* `Alike.targets_eq`, `Alike.supertypes_eq`, `Alike.isAssignable_eq`: so they have the same members
  and the same supertypes;
* `Alike.validate_eq`, `Alike.isConsistent_eq`, `Alike.draft_eq`: preferences and holders come to
  the same;
* `Alike.processAll_eq`: so does a run over some holders;
* `Alike.holders_perm`: the holders of one graph are those of the other, in another order.
-/

namespace KotlinPreferences

/-- Of the places of a search only the members matter. -/
theorem search_congr {α : Type} [DecidableEq α] {step : α → List α} {places places' : List α}
    (h : ∀ a, a ∈ places ↔ a ∈ places') (pending visited : List α) :
    search step places pending visited = search step places' pending visited := by
  fun_induction search step places pending visited with
  | case1 visited => rw [search]
  | case2 visited a rest hvisit ih =>
    have hvisit' : a ∈ places' ∧ a ∉ visited := ⟨(h a).1 hvisit.1, hvisit.2⟩
    rw [ih, search.eq_def step places' (a :: rest)]
    simp only [dif_pos hvisit']
  | case3 visited a rest hskip ih =>
    have hskip' : ¬ (a ∈ places' ∧ a ∉ visited) := fun hvisit => hskip ⟨(h a).2 hvisit.1, hvisit.2⟩
    rw [ih, search.eq_def step places' (a :: rest)]
    simp only [dif_neg hskip']

namespace SymbolGraph

variable {g g' : SymbolGraph} {id : Text} {d : Declaration}

/-- Two graphs declare and name the same, and have the same edges out of each node, in the same
order. -/
structure Alike (g g' : SymbolGraph) : Prop where
  sound : g.Sound
  sound' : g'.Sound
  declaration? : ∀ id, g.declaration? id = g'.declaration? id
  typeNamed? : ∀ key, g.typeNamed? key = g'.typeNamed? key
  outgoing : ∀ id, (g.edges.filter fun e => e.source = id) = g'.edges.filter fun e => e.source = id

/-- Where every node declares something, a declaration is missing only where there is no node. -/
theorem Declared.declaration_eq (h : g.Declared) (id : Text) :
    g.declaration id = orFail (g.declaration? id) (.absentNode (.str id)) := by
  cases hnode : g.node? id with
  | none => rw [declaration, SymbolGraph.declaration?, hnode]; rfl
  | some n =>
    obtain ⟨d, hd, -⟩ := h.declared n (mem_of_node? hnode)
    simp [declaration, SymbolGraph.declaration?, hnode, hd]

namespace Alike

/-! ### Declarations -/

theorem declaration_eq (h : g.Alike g') : g.declaration = g'.declaration := by
  funext id
  rw [h.sound.declared.declaration_eq, h.sound'.declared.declaration_eq, h.declaration?]

theorem hasNode_eq (h : g.Alike g') (id : Text) : g.hasNode id = g'.hasNode id := by
  rw [h.sound.declared.hasNode_eq, h.sound'.declared.hasNode_eq, h.declaration?]

theorem typeDecls_perm (h : g.Alike g') : g.typeDecls.Perm g'.typeDecls := by
  refine (List.perm_ext_iff_of_nodup (h.sound.declared.nodup_typeDecls.of_map _)
    (h.sound'.declared.nodup_typeDecls.of_map _)).2 fun t => ?_
  rw [h.sound.declared.mem_typeDecls_iff, h.sound'.declared.mem_typeDecls_iff, h.declaration?]

/-- The holders of one graph are those of the other, in another order. -/
theorem holders_perm (h : g.Alike g') : g.holders.Perm g'.holders := h.typeDecls_perm.filter _

theorem typeOf_eq (h : g.Alike g') : g.typeOf = g'.typeOf := by
  funext name
  simp only [typeOf, h.typeNamed?]

/-! ### Members -/

theorem targets_eq (h : g.Alike g') : g.targets = g'.targets := by
  funext id kind
  simp only [targets, edgesFrom, h.outgoing, h.declaration_eq]

theorem mem_edges_iff (h : g.Alike g') {e : Edge} : e ∈ g.edges ↔ e ∈ g'.edges := by
  have hmem : ∀ g : SymbolGraph, e ∈ g.edges ↔ e ∈ g.edges.filter fun other => other.source = e.source :=
    fun g => by simp
  rw [hmem g, hmem g', h.outgoing]

theorem functions_eq (h : g.Alike g') : g.functions = g'.functions := by
  funext id
  simp only [functions, callables, h.targets_eq]

theorem constructors_eq (h : g.Alike g') : g.constructors = g'.constructors := by
  funext id
  simp only [constructors, callables, h.targets_eq]

/-- The parameters of a function may come in another order, but there are some in both graphs or in
none. -/
theorem parameters_isEmpty (h : g.Alike g') (id : Text) :
    (do let ps ← g.parameters id; pure ps.isEmpty : Except Failure Bool) =
      (do let ps ← g'.parameters id; pure ps.isEmpty) := by
  have hnone : (g.sourcesOf id .paramOf).isEmpty = (g'.sourcesOf id .paramOf).isEmpty := by
    rw [Bool.eq_iff_iff, List.isEmpty_iff, List.isEmpty_iff, h.sound.sourcesOf_eq_nil_iff rfl,
      h.sound'.sourcesOf_eq_nil_iff rfl]
    simp only [h.mem_edges_iff]
  rw [parameters, parameters, h.sound.sources_eq rfl, h.sound'.sources_eq rfl]
  exact congrArg Except.ok hnone

theorem isConstructible_eq (h : g.Alike g') : g.isConstructible = g'.isConstructible := by
  funext d
  simp only [isConstructible, h.constructors_eq, h.parameters_isEmpty]

theorem valueType_eq (h : g.Alike g') : g.valueType = g'.valueType := by
  funext d
  simp only [valueType, functionNamed, h.functions_eq]

/-! ### Supertypes -/

theorem directSupertypeIds_eq (h : g.Alike g') : g.directSupertypeIds = g'.directSupertypeIds := by
  have hfilter : ∀ (g : SymbolGraph) (id : Text), g.directSupertypeIds id =
      ((g.edges.filter fun e => e.source = id).filter fun e => e.kind.isSupertype).map Edge.target := by
    intro g id
    rw [directSupertypeIds, List.filter_filter]
    simp only [Bool.and_comm]
  funext id
  rw [hfilter, hfilter, h.outgoing]

theorem supertypes_eq (h : g.Alike g') : g.supertypes = g'.supertypes := by
  have hplaces : ∀ id, id ∈ g.nodes.map Node.id ↔ id ∈ g'.nodes.map Node.id := fun id => by
    rw [← hasNode_iff, ← hasNode_iff, h.hasNode_eq]
  have hname : g.nameAt = g'.nameAt := by
    funext id
    simp only [nameAt, h.declaration_eq]
  funext id
  simp only [supertypes, supertypeIds, h.directSupertypeIds_eq, search_congr hplaces, hname]

theorem isAssignable_eq (h : g.Alike g') : g.isAssignable = g'.isAssignable := by
  funext target source
  simp only [isAssignable, h.typeNamed?, h.supertypes_eq]

/-! ### Preferences and holders -/

theorem arguments_eq (h : g.Alike g') (p : Preference) : p.arguments g = p.arguments g' := by
  simp only [Preference.arguments, Preference.converter, h.typeOf_eq]

theorem validate_eq (h : g.Alike g') (p : Preference) : p.validate g = p.validate g' := by
  simp only [Preference.validate, h.arguments_eq, h.isConstructible_eq, h.valueType_eq,
    h.isAssignable_eq]

theorem resolves_eq (h : g.Alike g') : g.resolves = g'.resolves := by
  have hknows : g.knowsConverter = g'.knowsConverter := by
    funext name
    cases name <;> simp only [knowsConverter, h.typeNamed?]
  funext property
  simp only [resolves, resolvesEntry, hknows]

theorem isConsistent_eq (h : g.Alike g') : g.isConsistent = g'.isConsistent := by
  funext id
  simp only [isConsistent, properties, h.targets_eq, h.resolves_eq]

theorem accessor_eq (h : g.Alike g') (options : Options) (p : Preference) :
    Holder.accessor g options p = Holder.accessor g' options p := by
  simp only [Holder.accessor, h.arguments_eq]

theorem step_eq (h : g.Alike g') (options : Options) (holder : TypeDecl) (property : Declaration) :
    Holder.step g options holder property = Holder.step g' options holder property := by
  simp only [Holder.step, Holder.preferenceStep, Holder.invalidStep, Holder.variableStep,
    h.validate_eq, h.accessor_eq]

theorem accessors_eq (h : g.Alike g') (options : Options) (holder : TypeDecl)
    (properties : List Declaration) :
    Holder.accessors g options holder properties = Holder.accessors g' options holder properties := by
  induction properties with
  | nil => rfl
  | cons property rest ih => simp only [Holder.accessors, h.step_eq, ih]

theorem draft_eq (h : g.Alike g') (options : Options) (d : Declaration) :
    Holder.draft g options d = Holder.draft g' options d := by
  cases d <;> simp only [Holder.draft, Holder.interfaceDraft, properties, h.targets_eq, h.accessors_eq]

/-- A run over some holders is the same over both graphs. -/
theorem processAll_eq (h : g.Alike g') (options : Options) (holders : List TypeDecl)
    (w : Workspace) :
    Workspace.processAll g options holders w = Workspace.processAll g' options holders w := by
  induction holders generalizing w with
  | nil => rfl
  | cons holder rest ih =>
    simp only [Workspace.processAll, Workspace.generate, h.isConsistent_eq, h.draft_eq, ih]

end Alike

end SymbolGraph

end KotlinPreferences
