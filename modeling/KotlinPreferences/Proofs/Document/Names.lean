import KotlinPreferences.Proofs.Document.Reading

/-!
# Names lead to types of those names

A name is registered for a type that carries it. Where a function of the built-in converter takes
the place of the type, the name leads to that function; but in no accepted document does it lead to
a type of another name.

* `SymbolGraph.Faithful`: no name leads to a type of another name;
* `Faithful.connect`, `Faithful.withConverterFunction`, `Faithful.withBuiltins`: what keeps that;
* `Document.read_faithful`: it holds of the graph of every accepted document.
-/

namespace KotlinPreferences

namespace SymbolGraph

variable {g : SymbolGraph}

/-- No name leads to a type of another name. -/
def Faithful (g : SymbolGraph) : Prop :=
  ∀ key id t, (key, id) ∈ g.names → g.declaration? id = some (.typeDecl t) →
    t.qualifiedName.key? = some key

/-- Where the names lead to the types of the graph, they do so under their own names. -/
theorem WellFormed.faithful (h : g.WellFormed) : g.Faithful := by
  intro key id t hname hd
  rw [show g.names = _ from h.indexed, List.mem_reverse, registrations, List.mem_filterMap] at hname
  obtain ⟨u, hu, hregistered⟩ := hname
  obtain ⟨key', hkey, hpair⟩ := Option.map_eq_some_iff.1 hregistered
  cases hpair
  rw [h.declared.mem_typeDecls_iff.1 hu, Option.some.injEq, Declaration.typeDecl.injEq] at hd
  exact hd ▸ hkey

theorem Faithful.connect (h : g.Faithful) (e : Edge) : (g.connect e).Faithful := by
  intro key id t hname hd
  rw [names_connect] at hname
  rw [declaration?_connect] at hd
  exact h key id t hname hd

theorem Faithful.withConverterInterface (h : g.Faithful) : g.withConverterInterface.Faithful := by
  unfold SymbolGraph.withConverterInterface
  split
  · exact h.connect _
  · exact h

/-- A declaration without a name keeps the names faithful, also in the place of a type. -/
theorem Faithful.insert (h : g.Faithful) {d : Declaration} (hnone : d.typeDecl? = none) :
    (g.insert d).Faithful := by
  intro key id t hname hd
  have hnames : (g.insert d).names = g.names := by
    cases d with
    | typeDecl t => cases hnone
    | property | function | parameter => rfl
  rw [hnames] at hname
  rw [declaration?_insert] at hd
  split at hd
  · cases hd
    cases hnone
  · exact h key id t hname hd

theorem Faithful.withConverterFunction (h : g.Faithful) (name : Text) :
    (g.withConverterFunction name).Faithful :=
  (((h.insert rfl).connect _).insert rfl).connect _

/-- The built-in types come up under free names, and the rest of the built-in declarations has
none. -/
theorem Faithful.withBuiltins (h : g.WellFormed) : g.withBuiltins.Faithful := by
  have hplain := ((h.withType Vocabulary.anyType .classType).withType Vocabulary.stringType
    .classType).withType Vocabulary.converterInterface .interface
  unfold SymbolGraph.withBuiltins SymbolGraph.withStringConverter
  split
  · exact ((hplain.withType _ _).faithful.withConverterInterface.withConverterFunction
      "parse").withConverterFunction "format"
  · exact hplain.faithful

/-- A name leads to a type of that name, if it leads to a type. -/
theorem Faithful.qualifiedName_eq (h : g.Faithful) {name : Text} {t : TypeDecl}
    (ht : g.typeNamed? (.str name) = some (.typeDecl t)) : t.qualifiedName = .str name := by
  unfold typeNamed? at ht
  split at ht
  · cases ht
  · rename_i id hid
    split at ht
    · cases ht
    · exact Value.key?_eq_str_iff.1 (h _ _ _ (mem_of_lookup hid) ht)

end SymbolGraph

namespace Document

open SymbolGraph

variable {g : SymbolGraph} {v : Value}

/-- In the graph of an accepted document no name leads to a type of another name. -/
theorem read_faithful (h : read v = .ok g) : g.Faithful := by
  obtain ⟨nodes, edges, g₀, -, hnodes, hedges⟩ := read_cases h
  refine foldlM_invariant (fun _ g => g.Faithful)
    (Faithful.withBuiltins (nodesRead hnodes).wellFormed) ?_ hedges
  intro done edge g g' _ hfaithful hstep
  obtain ⟨e, -, -, rfl⟩ := addEdge_cases hstep
  exact hfaithful.connect e

end Document

end KotlinPreferences
