import KotlinPreferences.Document.Builtins
import KotlinPreferences.Proofs.SymbolGraph.WellFormed

/-!
# Built-in declarations keep a graph well-formed

The built-in types only come up under ids and names that are free. The functions of the built-in
converter and their parameters come up under their ids in any case, so what holds afterwards depends
on whether those ids were free.

* `ReservedFree`: they were;
* `WellFormed.withBuiltins`: then the graph stays well-formed;
* `Sound.withBuiltins`: in any case it stays sound;
* `declaration?_withBuiltins`: what was declared under another id stays declared;
* `property_of_withBuiltins`: no property comes up.
-/

namespace KotlinPreferences

namespace Builtin

theorem typeId_ne_empty (qualifiedName : Text) : typeId qualifiedName ≠ "" := by
  simp [typeId]

theorem functionId_ne_typeId (name qualifiedName : Text) :
    functionId name ≠ typeId qualifiedName := fun h => by
  have := congrArg (fun s : Text => s.toList.head?) h
  simp [functionId, typeId] at this

theorem parameterId_ne_typeId (name qualifiedName : Text) :
    parameterId name ≠ typeId qualifiedName := fun h => by
  have := congrArg (fun s : Text => s.toList.head?) h
  simp [parameterId, typeId] at this

theorem parameterId_ne_functionId (name other : Text) :
    parameterId name ≠ functionId other := fun h => by
  have := congrArg (fun s : Text => s.toList.head?) h
  simp [parameterId, functionId] at this

theorem functionId_ne_empty (name : Text) : functionId name ≠ "" := by
  simp [functionId]

theorem parameterId_ne_empty (name : Text) : parameterId name ≠ "" := by
  simp [parameterId]

theorem ne_typeId_of_mem_reservedIds {id : Text} (h : id ∈ reservedIds) (qualifiedName : Text) :
    id ≠ typeId qualifiedName := by
  simp only [reservedIds, List.mem_cons, List.not_mem_nil, or_false] at h
  rcases h with rfl | rfl | rfl | rfl
  · exact functionId_ne_typeId _ _
  · exact parameterId_ne_typeId _ _
  · exact functionId_ne_typeId _ _
  · exact parameterId_ne_typeId _ _

/-- A function of the built-in converter. -/
def converterFunction (name : Text) : Declaration :=
  .function ⟨functionId name, name, some text, false⟩

/-- The parameter of such a function. -/
def converterParameter (name : Text) : Declaration :=
  .parameter ⟨parameterId name, "value", text, false⟩

/-- The edge from the built-in converter to one of its functions. -/
def functionEdge (name : Text) : Edge :=
  ⟨typeId Vocabulary.stringConverter, functionId name, .hasFunction⟩

/-- The edge from the parameter of such a function to the function. -/
def parameterEdge (name : Text) : Edge := ⟨parameterId name, functionId name, .paramOf⟩

end Builtin

namespace SymbolGraph

variable {g : SymbolGraph} {id : Text}

/-! ### Types -/

/-- A built-in type comes up under a new id or not at all. -/
theorem withType_cases (g : SymbolGraph) (qualifiedName : Text) (kind : TypeKind) :
    (g.hasNode (Builtin.typeId qualifiedName) = false ∧
      g.withType qualifiedName kind = g.insert (.typeDecl (Builtin.typeDecl qualifiedName kind))) ∨
    g.withType qualifiedName kind = g := by
  unfold withType
  split
  · rename_i h
    simp only [lacks, Bool.and_eq_true, Bool.not_eq_true'] at h
    exact .inl ⟨h.2, rfl⟩
  · exact .inr rfl

@[simp] theorem edges_withType (g : SymbolGraph) (qualifiedName : Text) (kind : TypeKind) :
    (g.withType qualifiedName kind).edges = g.edges := by
  rcases withType_cases g qualifiedName kind with ⟨-, h⟩ | h
  · rw [h, edges_insert]
  · rw [h]

theorem WellFormed.withType (h : g.WellFormed) (qualifiedName : Text) (kind : TypeKind) :
    (g.withType qualifiedName kind).WellFormed := by
  rcases withType_cases g qualifiedName kind with ⟨hnew, heq⟩ | heq
  · rw [heq]
    exact h.insert hnew (Builtin.typeId_ne_empty _)
  · rwa [heq]

/-- The ids that the functions of the built-in converter and their parameters take are free. -/
def ReservedFree (g : SymbolGraph) : Prop := ∀ id ∈ Builtin.reservedIds, g.declaration? id = none

theorem ReservedFree.withType (h : g.ReservedFree) (qualifiedName : Text) (kind : TypeKind) :
    (g.withType qualifiedName kind).ReservedFree := by
  intro id hid
  rcases withType_cases g qualifiedName kind with ⟨-, heq⟩ | heq
  · have hne : id ≠ (Declaration.typeDecl (Builtin.typeDecl qualifiedName kind)).id :=
      Builtin.ne_typeId_of_mem_reservedIds hid qualifiedName
    rw [heq, declaration?_insert, if_neg hne, h id hid]
  · rw [heq]
    exact h id hid

/-- A built-in type takes no place of another declaration. -/
theorem declaration?_withType {d : Declaration} (h : g.declaration? id = some d)
    (qualifiedName : Text) (kind : TypeKind) :
    (g.withType qualifiedName kind).declaration? id = some d := by
  rcases withType_cases g qualifiedName kind with ⟨hnew, heq⟩ | heq
  · rw [heq]
    exact declaration?_insert_of_new h hnew
  · rwa [heq]

/-- The built-in converter has come up, and is a type. -/
def HasStringConverter (g : SymbolGraph) : Prop :=
  ∃ t, g.declaration? (Builtin.typeId Vocabulary.stringConverter) = some (.typeDecl t)

theorem HasStringConverter.hasNode (h : g.HasStringConverter) :
    g.hasNode (Builtin.typeId Vocabulary.stringConverter) = true := by
  obtain ⟨t, ht⟩ := h
  exact hasNode_of_declaration? ht

theorem hasStringConverter_withType (h : g.lacks Vocabulary.stringConverter = true) :
    (g.withType Vocabulary.stringConverter .classType).HasStringConverter := by
  rw [withType, if_pos h]
  exact ⟨_, declaration?_insert.trans (if_pos rfl)⟩

/-! ### The interface of converters -/

/-- The edge to the interface of converters leads to a type, where names lead to types. -/
theorem WellFormed.withConverterInterface (h : g.WellFormed) (hsc : g.HasStringConverter) :
    g.withConverterInterface.WellFormed := by
  obtain ⟨t, ht⟩ := hsc
  unfold SymbolGraph.withConverterInterface
  split
  · rename_i d hd
    rw [typeNamed?_eq_find? h.declared h.indexed, Option.map_eq_some_iff] at hd
    obtain ⟨u, hu, rfl⟩ := hd
    have hmem : u ∈ g.typeDecls := List.mem_reverse.1 (List.mem_of_find?_eq_some hu)
    exact h.connect ⟨_, _, ht, h.declared.mem_typeDecls_iff.1 hmem, rfl⟩
  · exact h

@[simp] theorem declaration?_withConverterInterface :
    g.withConverterInterface.declaration? id = g.declaration? id := by
  unfold SymbolGraph.withConverterInterface
  split
  · exact declaration?_connect
  · rfl

theorem ReservedFree.withConverterInterface (h : g.ReservedFree) :
    g.withConverterInterface.ReservedFree := fun id hid =>
  declaration?_withConverterInterface.trans (h id hid)

theorem HasStringConverter.withConverterInterface (h : g.HasStringConverter) :
    g.withConverterInterface.HasStringConverter := by
  obtain ⟨t, ht⟩ := h
  exact ⟨t, declaration?_withConverterInterface.trans ht⟩

/-- The edge to the interface of converters is no edge to a member. -/
theorem isSupertype_of_mem_withConverterInterface (h : g.edges = []) {e : Edge}
    (he : e ∈ g.withConverterInterface.edges) : e.kind.isSupertype = true := by
  unfold SymbolGraph.withConverterInterface at he
  split at he
  · rw [edges_connect, h, List.nil_append, List.mem_singleton] at he
    subst he
    rfl
  · rw [h] at he
    cases he

/-! ### The functions of the converter -/

section ConverterFunction

variable {name : Text}

@[simp] theorem edges_withConverterFunction :
    (g.withConverterFunction name).edges =
      g.edges ++ [Builtin.functionEdge name, Builtin.parameterEdge name] := by
  simp [withConverterFunction, Builtin.functionEdge, Builtin.parameterEdge]

theorem declaration?_withConverterFunction :
    (g.withConverterFunction name).declaration? id =
      if id = Builtin.parameterId name then some (Builtin.converterParameter name)
      else if id = Builtin.functionId name then some (Builtin.converterFunction name)
      else g.declaration? id := by
  simp only [withConverterFunction, declaration?_connect, declaration?_insert]
  rfl

theorem declaration?_withConverterFunction_of_ne (hf : id ≠ Builtin.functionId name)
    (hp : id ≠ Builtin.parameterId name) :
    (g.withConverterFunction name).declaration? id = g.declaration? id := by
  rw [declaration?_withConverterFunction, if_neg hp, if_neg hf]

theorem HasStringConverter.withConverterFunction (h : g.HasStringConverter) (name : Text) :
    (g.withConverterFunction name).HasStringConverter := by
  obtain ⟨t, ht⟩ := h
  refine ⟨t, ?_⟩
  rw [declaration?_withConverterFunction_of_ne (Builtin.functionId_ne_typeId _ _).symm
    (Builtin.parameterId_ne_typeId _ _).symm, ht]

theorem fits_functionEdge (hsc : g.HasStringConverter) :
    (g.withConverterFunction name).Fits (Builtin.functionEdge name) := by
  obtain ⟨t, ht⟩ := hsc.withConverterFunction name
  refine ⟨.typeDecl t, Builtin.converterFunction name, ht, ?_, rfl⟩
  rw [declaration?_withConverterFunction]
  exact (if_neg (Builtin.parameterId_ne_functionId _ _).symm).trans (if_pos rfl)

theorem fits_parameterEdge : (g.withConverterFunction name).Fits (Builtin.parameterEdge name) := by
  refine ⟨Builtin.converterParameter name, Builtin.converterFunction name, ?_, ?_, rfl⟩
  · rw [declaration?_withConverterFunction]
    exact if_pos rfl
  · rw [declaration?_withConverterFunction]
    exact (if_neg (Builtin.parameterId_ne_functionId _ _).symm).trans (if_pos rfl)

/-- An edge has no end at a function of the built-in converter or at its parameter. -/
def Apart (name : Text) (e : Edge) : Prop :=
  (e.source ≠ Builtin.functionId name ∧ e.source ≠ Builtin.parameterId name) ∧
    e.target ≠ Builtin.functionId name ∧ e.target ≠ Builtin.parameterId name

theorem Fits.withConverterFunction {e : Edge} (h : g.Fits e) (hapart : Apart name e) :
    (g.withConverterFunction name).Fits e := by
  obtain ⟨s, t, hs, ht, hends⟩ := h
  obtain ⟨⟨hsf, hsp⟩, htf, htp⟩ := hapart
  refine ⟨s, t, ?_, ?_, hends⟩
  · rw [declaration?_withConverterFunction_of_ne hsf hsp, hs]
  · rw [declaration?_withConverterFunction_of_ne htf htp, ht]

theorem Declared.withConverterFunction (h : g.Declared)
    (hsc : g.HasStringConverter) :
    (g.withConverterFunction name).Declared := by
  unfold SymbolGraph.withConverterFunction
  refine (((h.insert ?_).connect ?_ ?_).insert ?_).connect ?_ ?_
  · exact Builtin.functionId_ne_empty name
  · simp [hasNode_insert, hsc.hasNode]
  · simp [hasNode_insert, Declaration.id]
  · exact Builtin.parameterId_ne_empty name
  · simp [hasNode_insert, Declaration.id]
  · simp [hasNode_insert, hasNode_connect]

theorem Indexed.withConverterFunction (h : g.Indexed)
    (hsc : g.HasStringConverter)
    (hf : g.hasNode (Builtin.functionId name) = false)
    (hp : g.hasNode (Builtin.parameterId name) = false) :
    (g.withConverterFunction name).Indexed := by
  unfold SymbolGraph.withConverterFunction
  refine (((h.insert ?_).connect ?_ ?_).insert ?_).connect ?_ ?_
  · exact hf
  · simp [hasNode_insert, hsc.hasNode]
  · simp [hasNode_insert, Declaration.id]
  · simp [hasNode_insert, hasNode_connect, Declaration.id, hp, Builtin.parameterId_ne_functionId,
      Builtin.parameterId_ne_typeId]
  · simp [hasNode_insert, Declaration.id]
  · simp [hasNode_insert, hasNode_connect]

/-- Under new ids a function and its parameter keep a graph well-formed. -/
theorem WellFormed.withConverterFunction (h : g.WellFormed) (name : Text)
    (hsc : g.HasStringConverter)
    (hf : g.declaration? (Builtin.functionId name) = none)
    (hp : g.declaration? (Builtin.parameterId name) = none) :
    (g.withConverterFunction name).WellFormed where
  declared := h.declared.withConverterFunction hsc
  indexed := h.indexed.withConverterFunction hsc
    (h.declared.hasNode_eq_false hf) (h.declared.hasNode_eq_false hp)
  fitting e he := by
    rw [edges_withConverterFunction, List.mem_append, List.mem_pair] at he
    rcases he with hold | rfl | rfl
    · obtain ⟨s, t, hs, ht, hends⟩ := h.fitting e hold
      -- something is declared at the ends of an edge, so they are none of the new ids
      have hne : ∀ {id new d}, g.declaration? id = some d → g.declaration? new = none →
          id ≠ new := by
        rintro id new d hid hnew rfl
        rw [hid] at hnew
        cases hnew
      exact Fits.withConverterFunction ⟨s, t, hs, ht, hends⟩
        ⟨⟨hne hs hf, hne hs hp⟩, hne ht hf, hne ht hp⟩
    · exact fits_functionEdge hsc
    · exact fits_parameterEdge

/-- A function and its parameter keep a graph sound if no edge to a member has an end there. -/
theorem Sound.withConverterFunction (h : g.Sound) (name : Text)
    (hsc : g.HasStringConverter)
    (hapart : ∀ e ∈ g.edges, e.kind.isSupertype = false → Apart name e) :
    (g.withConverterFunction name).Sound where
  declared := h.declared.withConverterFunction hsc
  fitting e he hkind := by
    rw [edges_withConverterFunction, List.mem_append, List.mem_pair] at he
    rcases he with hold | rfl | rfl
    · exact (h.fitting e hold hkind).withConverterFunction (hapart e hold hkind)
    · exact fits_functionEdge hsc
    · exact fits_parameterEdge

end ConverterFunction

/-! ### All of them -/

/-- The second function of the converter does not take the ids of the first. -/
theorem formatIds_ne_parseIds {id : Text}
    (h : id = Builtin.functionId "format" ∨ id = Builtin.parameterId "format") :
    id ≠ Builtin.functionId "parse" ∧ id ≠ Builtin.parameterId "parse" := by
  rcases h with rfl | rfl
  · decide
  · decide

/-- The ids of the second function are still free after the first. -/
theorem ReservedFree.declaration?_format (h : g.ReservedFree)
    (hid : id = Builtin.functionId "format" ∨ id = Builtin.parameterId "format") :
    (g.withConverterFunction "parse").declaration? id = none := by
  obtain ⟨hf, hp⟩ := formatIds_ne_parseIds hid
  rw [declaration?_withConverterFunction_of_ne hf hp]
  refine h id ?_
  rcases hid with rfl | rfl
  · simp [Builtin.reservedIds]
  · simp [Builtin.reservedIds]

theorem WellFormed.withParseFunction (h : g.WellFormed) (hsc : g.HasStringConverter)
    (hfree : g.ReservedFree) : (g.withConverterFunction "parse").WellFormed :=
  h.withConverterFunction "parse" hsc (hfree _ (by simp [Builtin.reservedIds]))
    (hfree _ (by simp [Builtin.reservedIds]))

theorem WellFormed.withStringConverter (h : g.WellFormed) (hfree : g.ReservedFree) :
    g.withStringConverter.WellFormed := by
  unfold SymbolGraph.withStringConverter
  split
  · rename_i hlacks
    have hsc := hasStringConverter_withType hlacks
    have hinterface := (h.withType Vocabulary.stringConverter .classType).withConverterInterface hsc
    have hfree' := (hfree.withType Vocabulary.stringConverter .classType).withConverterInterface
    exact (hinterface.withParseFunction hsc.withConverterInterface hfree').withConverterFunction
      "format" (hsc.withConverterInterface.withConverterFunction _)
      (hfree'.declaration?_format (.inl rfl)) (hfree'.declaration?_format (.inr rfl))
  · exact h

/-- Before any edge of the document, the converter may take the place of other declarations. -/
theorem Sound.withStringConverter (h : g.WellFormed) (hedges : g.edges = []) :
    g.withStringConverter.Sound := by
  unfold SymbolGraph.withStringConverter
  split
  · rename_i hlacks
    have hsc := hasStringConverter_withType hlacks
    have hinterface := (h.withType Vocabulary.stringConverter .classType).withConverterInterface hsc
    have hsuper := fun e => isSupertype_of_mem_withConverterInterface (e := e)
      ((edges_withType g Vocabulary.stringConverter .classType).trans hedges)
    have hparse := hinterface.sound.withConverterFunction "parse" hsc.withConverterInterface
      fun e he hkind => by
        rw [hsuper e he] at hkind
        cases hkind
    refine hparse.withConverterFunction "format" (hsc.withConverterInterface.withConverterFunction _)
      fun e he hkind => ?_
    rw [edges_withConverterFunction, List.mem_append, List.mem_pair] at he
    rcases he with hold | rfl | rfl
    · rw [hsuper e hold] at hkind
      cases hkind
    · exact ⟨by decide, by decide⟩
    · exact ⟨by decide, by decide⟩
  · exact h.sound

/-- **The built-in declarations keep a graph well-formed** if the reserved ids are free. -/
theorem WellFormed.withBuiltins (h : g.WellFormed) (hfree : g.ReservedFree) :
    g.withBuiltins.WellFormed := by
  refine WellFormed.withStringConverter ?_ ?_
  · exact ((h.withType _ _).withType _ _).withType _ _
  · exact ((hfree.withType _ _).withType _ _).withType _ _

theorem Sound.withBuiltins (h : g.WellFormed) (hedges : g.edges = []) : g.withBuiltins.Sound := by
  refine Sound.withStringConverter ?_ ?_
  · exact ((h.withType _ _).withType _ _).withType _ _
  · simp only [edges_withType, hedges]

/-- What is declared under an id that is not reserved stays declared when the converter comes up. -/
theorem declaration?_withStringConverter {d : Declaration} (h : g.declaration? id = some d)
    (hid : id ∉ Builtin.reservedIds) : g.withStringConverter.declaration? id = some d := by
  simp only [Builtin.reservedIds, List.mem_cons, List.not_mem_nil, or_false, not_or] at hid
  obtain ⟨hfp, hpp, hff, hpf⟩ := hid
  unfold SymbolGraph.withStringConverter
  split
  · rw [declaration?_withConverterFunction_of_ne hff hpf,
      declaration?_withConverterFunction_of_ne hfp hpp, declaration?_withConverterInterface]
    exact declaration?_withType h _ _
  · exact h

/-- What is declared under an id that is not reserved stays declared. -/
theorem declaration?_withBuiltins {d : Declaration} (h : g.declaration? id = some d)
    (hid : id ∉ Builtin.reservedIds) : g.withBuiltins.declaration? id = some d :=
  declaration?_withStringConverter (declaration?_withType (declaration?_withType
    (declaration?_withType h Vocabulary.anyType .classType) Vocabulary.stringType .classType)
    Vocabulary.converterInterface .interface) hid

/-- What passes over every declaration that can be registered and is no property, and over every edge,
passes over the built-in declarations. -/
theorem withBuiltins_induction {P : SymbolGraph → Prop}
    (hinsert : ∀ g d, registrable d = .ok () → d.kind ≠ .property → P g → P (g.insert d))
    (hconnect : ∀ g e, P g → P (g.connect e)) (h : P g) : P g.withBuiltins := by
  have htype : ∀ g qualifiedName kind, P g → P (g.withType qualifiedName kind) := by
    intro g qualifiedName kind h
    rcases withType_cases g qualifiedName kind with ⟨-, heq⟩ | heq
    · rw [heq]
      exact hinsert g _ rfl nofun h
    · rwa [heq]
  have hinterface : ∀ g, P g → P g.withConverterInterface := by
    intro g h
    unfold SymbolGraph.withConverterInterface
    split
    · exact hconnect g _ h
    · exact h
  have hfunction : ∀ g name, P g → P (g.withConverterFunction name) := fun g name h =>
    hconnect _ _ (hinsert _ _ rfl nofun (hconnect _ _ (hinsert g _ rfl nofun h)))
  have htypes := htype _ Vocabulary.converterInterface .interface
    (htype _ Vocabulary.stringType .classType (htype g Vocabulary.anyType .classType h))
  unfold SymbolGraph.withBuiltins SymbolGraph.withStringConverter
  split
  · exact hfunction _ _ (hfunction _ _ (hinterface _ (htype _ _ _ htypes)))
  · exact htypes

/-- A property is none of the built-in declarations. -/
theorem property_of_withBuiltins {q : Property}
    (h : g.withBuiltins.declaration? id = some (.property q)) :
    g.declaration? id = some (.property q) := by
  revert h
  refine withBuiltins_induction (P := fun g' => g'.declaration? id = some (.property q) →
    g.declaration? id = some (.property q)) ?_ ?_ (fun h => h)
  · intro g' d _ hkind ih h
    rw [declaration?_insert] at h
    split_ifs at h with hid
    · cases h
      exact absurd rfl hkind
    · exact ih h
  · intro g' e ih h
    exact ih (declaration?_connect.symm.trans h)

end SymbolGraph

end KotlinPreferences
