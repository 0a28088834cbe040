import KotlinPreferences.Proofs.Document.Contents

/-!
# Two graphs side by side

How the built-in declarations come up in two graphs, of which one declares what the other declares,
or leads the same names to the same ids. Both graphs have to lack the same built-in types; then each
gets the same declarations.

* `SymbolGraph.Within`, `SymbolGraph.NamedWithin`: what is declared, or named, in one graph is so in
  the other;
* `WellFormed.lacks_iff`: when a built-in type is lacking, by the declarations of the graph;
* `LacksSame`, `withBuiltins_rel`: what passes over every growth passes over the built-in
  declarations of both graphs;
* `WellFormed.edges_withBuiltins`: the edges that come with them.
-/

namespace KotlinPreferences

namespace Builtin

/-- The names of the built-in types. -/
def typeNames : List Text :=
  [Vocabulary.anyType, Vocabulary.stringType, Vocabulary.converterInterface,
    Vocabulary.stringConverter]

/-- The edges between the built-in converter, its functions and their parameters. -/
def converterEdges : List Edge :=
  [functionEdge "parse", parameterEdge "parse", functionEdge "format", parameterEdge "format"]

end Builtin

namespace SymbolGraph

variable {g g' : SymbolGraph} {key : Key} {id : Text} {d : Declaration}

/-- What is declared in one graph is declared in another one. -/
def Within (g g' : SymbolGraph) : Prop :=
  ∀ id d, g.declaration? id = some d → g'.declaration? id = some d

/-- What is registered for a name in one graph is registered for it in another one. -/
def NamedWithin (g g' : SymbolGraph) : Prop :=
  ∀ key id, g.names.lookup key = some id → g'.names.lookup key = some id

/-- A name that leads to a declaration leads to the same one in the other graph. -/
theorem typeNamed?_of_within (h : g.Within g') (hnamed : g.NamedWithin g')
    (hd : g.typeNamed? key = some d) : g'.typeNamed? key = some d := by
  unfold typeNamed? at hd ⊢
  split at hd
  · cases hd
  · rename_i id hid
    rw [hnamed key id hid]
    split at hd
    · cases hd
    · rename_i hne
      exact (if_neg hne).trans (h id d hd)

theorem Within.insert (h : g.Within g') (d : Declaration) : (g.insert d).Within (g'.insert d) := by
  intro id d'
  rw [declaration?_insert, declaration?_insert]
  split
  · exact fun h => h
  · exact h id d'

theorem lookup_registered {names : List (Key × Text)} :
    (registered names d).lookup key =
      if nameKey? d = some key then some d.id else names.lookup key := by
  unfold registered
  split
  · rename_i k hk
    by_cases hkey : key = k
    · simp [hkey, hk]
    · have hbeq : (key == k) = false := by simpa using hkey
      rw [List.lookup_cons, hbeq, if_neg (by simpa [hk] using Ne.symm hkey)]
  · rename_i hnone
    simp [hnone]

theorem NamedWithin.insert (h : g.NamedWithin g') (d : Declaration) :
    (g.insert d).NamedWithin (g'.insert d) := by
  intro key id
  show (registered g.names d).lookup key = some id → (registered g'.names d).lookup key = some id
  rw [lookup_registered, lookup_registered]
  split
  · exact fun h => h
  · exact h key id

/-- What edges a graph has does not matter to what it declares and names. -/
theorem Within.foldl_connect (h : g.Within g') (es es' : List Edge) :
    (es.foldl SymbolGraph.connect g).Within (es'.foldl SymbolGraph.connect g') := by
  intro id d hd
  rw [Document.declaration?_foldl_connect] at hd ⊢
  exact h id d hd

theorem NamedWithin.foldl_connect (h : g.NamedWithin g') (es es' : List Edge) :
    (es.foldl SymbolGraph.connect g).NamedWithin (es'.foldl SymbolGraph.connect g') := by
  rw [NamedWithin, Document.names_foldl_connect, Document.names_foldl_connect]
  exact h

/-! ### What is lacking -/

/-- A built-in type is lacking where no type has its name and nothing takes its id. -/
theorem WellFormed.lacks_iff (h : g.WellFormed) (q : Text) : g.lacks q = true ↔
    (∀ id t, g.declaration? id = some (.typeDecl t) → t.qualifiedName ≠ .str q) ∧
      g.declaration? (Builtin.typeId q) = none := by
  have hname : g.typeNamed? (.str q) = none ↔ ∀ t ∈ g.typeDecls, t.qualifiedName ≠ .str q := by
    simpa [typeOf] using typeOf_eq_none_iff h q
  simp only [lacks, Bool.and_eq_true, Option.isNone_iff_eq_none, Bool.not_eq_true', hname]
  constructor
  · rintro ⟨hnames, hnode⟩
    constructor
    · intro id t ht
      have hid : t.id = id := h.declared.id_of_declaration? ht
      exact hnames t (h.declared.mem_typeDecls_iff.2 (hid.symm ▸ ht))
    · by_contra hsome
      obtain ⟨d, hd⟩ := Option.ne_none_iff_exists'.1 hsome
      rw [hasNode_of_declaration? hd] at hnode
      cases hnode
  · rintro ⟨hnames, hnode⟩
    exact ⟨fun t ht => hnames t.id t (h.declared.mem_typeDecls_iff.1 ht),
      h.declared.hasNode_eq_false hnode⟩

/-- Each built-in type leaves the names of the next ones alone. -/
theorem WellFormed.lacks_stringType (h : g.WellFormed) :
    (g.withType Vocabulary.anyType .classType).lacks Vocabulary.stringType =
      g.lacks Vocabulary.stringType :=
  h.lacks_withType (by decide) _

theorem WellFormed.lacks_converterInterface (h : g.WellFormed) :
    ((g.withType Vocabulary.anyType .classType).withType Vocabulary.stringType .classType).lacks
        Vocabulary.converterInterface = g.lacks Vocabulary.converterInterface := by
  rw [(h.withType _ _).lacks_withType (by decide), h.lacks_withType (by decide)]

/-- Two graphs lack the same built-in types. -/
def LacksSame (g g' : SymbolGraph) : Prop := ∀ q ∈ Builtin.typeNames, g.lacks q = g'.lacks q

theorem LacksSame.stringConverter (h : g.LacksSame g') :
    g.lacks Vocabulary.stringConverter = g'.lacks Vocabulary.stringConverter :=
  h _ (by simp [Builtin.typeNames])

/-- Graphs with the same declarations lack the same. -/
theorem WellFormed.lacksSame (h : g.WellFormed) (h' : g'.WellFormed)
    (hdecl : ∀ id, g.declaration? id = g'.declaration? id) : g.LacksSame g' := by
  intro q _
  rw [Bool.eq_iff_iff, h.lacks_iff, h'.lacks_iff]
  simp only [hdecl]

/-! ### The built-in declarations of both -/

section Relation

variable {R : SymbolGraph → SymbolGraph → Prop}
  (hinsert : ∀ g g' d, R g g' → R (g.insert d) (g'.insert d))

include hinsert

theorem withType_rel {q : Text} (hlacks : g.lacks q = g'.lacks q) (kind : TypeKind)
    (h : R g g') : R (g.withType q kind) (g'.withType q kind) := by
  unfold withType
  rw [hlacks]
  split
  · exact hinsert _ _ _ h
  · exact h

/-- The built-in types come up in both graphs, the converter among them. -/
theorem withTypes_rel (hwf : g.WellFormed) (hwf' : g'.WellFormed) (hlacks : g.LacksSame g')
    (h : R g g') :
    R (g.withPlainTypes.withType Vocabulary.stringConverter .classType)
        (g'.withPlainTypes.withType Vocabulary.stringConverter .classType) ∧
      R g.withPlainTypes g'.withPlainTypes := by
  have hany := withType_rel hinsert (hlacks Vocabulary.anyType (by simp [Builtin.typeNames]))
    .classType h
  have hstring : (g.withType Vocabulary.anyType .classType).lacks Vocabulary.stringType =
      (g'.withType Vocabulary.anyType .classType).lacks Vocabulary.stringType := by
    rw [hwf.lacks_stringType, hwf'.lacks_stringType]
    exact hlacks _ (by simp [Builtin.typeNames])
  have hinterface : ((g.withType Vocabulary.anyType .classType).withType Vocabulary.stringType
        .classType).lacks Vocabulary.converterInterface =
      ((g'.withType Vocabulary.anyType .classType).withType Vocabulary.stringType
        .classType).lacks Vocabulary.converterInterface := by
    rw [hwf.lacks_converterInterface, hwf'.lacks_converterInterface]
    exact hlacks _ (by simp [Builtin.typeNames])
  have hplain : R g.withPlainTypes g'.withPlainTypes :=
    withType_rel hinsert hinterface .interface (withType_rel hinsert hstring .classType hany)
  refine ⟨withType_rel hinsert ?_ .classType hplain, hplain⟩
  rw [hwf.lacks_withPlainTypes, hwf'.lacks_withPlainTypes, hlacks.stringConverter]

/-- **What passes over every growth passes over the built-in declarations of two graphs,** if both
lack the same, and if it does not depend on edges. -/
theorem withBuiltins_rel (hleft : ∀ g g' e, R g g' → R (g.connect e) g')
    (hright : ∀ g g' e, R g g' → R g (g'.connect e)) (hwf : g.WellFormed) (hwf' : g'.WellFormed)
    (hlacks : g.LacksSame g') (h : R g g') : R g.withBuiltins g'.withBuiltins := by
  obtain ⟨htypes, hplain⟩ := withTypes_rel hinsert hwf hwf' hlacks h
  have hinterface : ∀ g g', R g g' → R g.withConverterInterface g'.withConverterInterface := by
    intro g g' h
    have hboth : R g g'.withConverterInterface := by
      unfold SymbolGraph.withConverterInterface
      split
      · exact hright _ _ _ h
      · exact h
    rw [SymbolGraph.withConverterInterface.eq_def g]
    split
    · exact hleft _ _ _ hboth
    · exact hboth
  have hconnect : ∀ g g' e, R g g' → R (g.connect e) (g'.connect e) := fun g g' e h =>
    hleft _ _ e (hright _ _ e h)
  have hfunction : ∀ g g' name, R g g' →
      R (g.withConverterFunction name) (g'.withConverterFunction name) := fun g g' name h =>
    hconnect _ _ _ (hinsert _ _ _ (hconnect _ _ _ (hinsert _ _ _ h)))
  rw [withBuiltins_eq, withBuiltins_eq, SymbolGraph.withStringConverter, hwf.lacks_withPlainTypes,
    hlacks.stringConverter, SymbolGraph.withStringConverter, hwf'.lacks_withPlainTypes]
  split
  · exact hfunction _ _ _ (hfunction _ _ _ (hinterface _ _ htypes))
  · exact hplain

end Relation

theorem Within.withBuiltins (hwf : g.WellFormed) (hwf' : g'.WellFormed) (hlacks : g.LacksSame g')
    (h : g.Within g') : g.withBuiltins.Within g'.withBuiltins := by
  refine withBuiltins_rel (fun _ _ d h => h.insert d) ?_ ?_ hwf hwf' hlacks h
  · intro g g' e h id d hd
    exact h id d (by rwa [declaration?_connect] at hd)
  · intro g g' e h id d hd
    rw [declaration?_connect]
    exact h id d hd

theorem NamedWithin.withBuiltins (hwf : g.WellFormed) (hwf' : g'.WellFormed)
    (hlacks : g.LacksSame g') (h : g.NamedWithin g') :
    g.withBuiltins.NamedWithin g'.withBuiltins :=
  withBuiltins_rel (fun _ _ d h => h.insert d) (fun _ _ _ h => h) (fun _ _ _ h => h) hwf hwf' hlacks h

/-! ### Their edges -/

/-- The edge from the built-in converter to the interface of converters, if that has a name. -/
def interfaceEdge? (g : SymbolGraph) : Option Edge :=
  ((g.withPlainTypes.withType Vocabulary.stringConverter .classType).typeNamed?
    (.str Vocabulary.converterInterface)).map fun d =>
      ⟨Builtin.typeId Vocabulary.stringConverter, d.id, .implements⟩

/-- The built-in converter comes with an edge to its interface and those to its functions. -/
theorem WellFormed.edges_withBuiltins (h : g.WellFormed) (hedges : g.edges = []) :
    g.withBuiltins.edges =
      if g.lacks Vocabulary.stringConverter then
        g.interfaceEdge?.toList ++ Builtin.converterEdges
      else [] := by
  have hnone : (g.withPlainTypes.withType Vocabulary.stringConverter .classType).edges = [] := by
    simp only [SymbolGraph.withPlainTypes, edges_withType, hedges]
  have hinterface : (g.withPlainTypes.withType Vocabulary.stringConverter
      .classType).withConverterInterface.edges = g.interfaceEdge?.toList := by
    rw [SymbolGraph.withConverterInterface, interfaceEdge?]
    split
    · rename_i d hd
      rw [edges_connect, hnone, hd]
      rfl
    · rename_i hd
      rw [hnone, hd]
      rfl
  rw [withBuiltins_eq, SymbolGraph.withStringConverter, h.lacks_withPlainTypes]
  split
  · rw [edges_withConverterFunction, edges_withConverterFunction, hinterface, List.append_assoc]
    rfl
  · simp only [SymbolGraph.withPlainTypes, edges_withType, hedges]

/-- The edge to the interface of converters is there in the other graph, too. -/
theorem interfaceEdge?_of_within (hwf : g.WellFormed) (hwf' : g'.WellFormed)
    (hlacks : g.LacksSame g') (h : g.Within g') (hnamed : g.NamedWithin g') {e : Edge}
    (he : g.interfaceEdge? = some e) : g'.interfaceEdge? = some e := by
  obtain ⟨d, hd, rfl⟩ := Option.map_eq_some_iff.1 he
  have hwithin := (withTypes_rel (R := Within) (fun _ _ d h => h.insert d) hwf hwf' hlacks h).1
  have hnamed := (withTypes_rel (R := NamedWithin) (fun _ _ d h => h.insert d) hwf hwf' hlacks
    hnamed).1
  have hboth := typeNamed?_of_within hwithin hnamed hd
  rw [interfaceEdge?, hboth]
  rfl

end SymbolGraph

end KotlinPreferences
