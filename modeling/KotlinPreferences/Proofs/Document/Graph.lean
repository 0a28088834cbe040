import KotlinPreferences.Proofs.Document.Reading

/-!
# The graph of a document

* `find?_reverse_eq_some_iff`: the last element of a list with some property;
* `wellFormed_graph_of_read`: the nodes, the edges and the names of types in the graph of an accepted
  document that avoids the reserved ids;
* `Sample.document`: a small document with holders of every sort.
-/

namespace KotlinPreferences

theorem find?_reverse_eq_some_iff {α : Type} {p : α → Bool} {l : List α} {a : α} :
    l.reverse.find? p = some a ↔
      ∃ before after, l = before ++ a :: after ∧ p a = true ∧ ∀ b ∈ after, p b = false := by
  rw [List.find?_eq_some_iff_append]
  constructor
  · rintro ⟨ha, after, before, heq, hafter⟩
    refine ⟨before.reverse, after.reverse, ?_, ha, ?_⟩
    · simpa using congrArg List.reverse heq
    · intro b hb
      simpa using hafter b (List.mem_reverse.1 hb)
  · rintro ⟨before, after, rfl, ha, hafter⟩
    refine ⟨ha, after.reverse, before.reverse, by simp, ?_⟩
    intro b hb
    simp [hafter b (List.mem_reverse.1 hb)]

namespace SymbolGraph

variable {g : SymbolGraph}

theorem typeOf_eq_none_iff (h : g.WellFormed) (q : Text) :
    g.typeOf (.str q) = .ok none ↔ ∀ t ∈ g.typeDecls, t.qualifiedName ≠ .str q := by
  simp only [typeOf, Value.key?_str, Except.ok.injEq, typeNamed?_eq_find? h.declared h.indexed,
    Option.map_eq_none_iff, List.find?_eq_none, List.mem_reverse, decide_eq_true_eq,
    Value.key?_eq_str_iff, ne_eq]

/-- The type of a name is the last one that carries it. -/
theorem typeOf_eq_some_iff (h : g.WellFormed) (q : Text) (d : Declaration) :
    g.typeOf (.str q) = .ok (some d) ↔
      ∃ before t after, g.typeDecls = before ++ t :: after ∧ d = .typeDecl t ∧
        t.qualifiedName = .str q ∧ ∀ u ∈ after, u.qualifiedName ≠ .str q := by
  simp only [typeOf, Value.key?_str, Except.ok.injEq, typeNamed?_eq_find? h.declared h.indexed,
    Option.map_eq_some_iff, find?_reverse_eq_some_iff, decide_eq_true_eq, decide_eq_false_iff_not,
    Value.key?_eq_str_iff]
  constructor
  · rintro ⟨t, ⟨before, after, hsplit, hname, hafter⟩, rfl⟩
    exact ⟨before, t, after, hsplit, rfl, hname, hafter⟩
  · rintro ⟨before, t, after, hsplit, rfl, hname, hafter⟩
    exact ⟨t, ⟨before, after, hsplit, hname, hafter⟩, rfl⟩

end SymbolGraph

namespace Document

variable {g : SymbolGraph} {v : Value}

/-- **The graph of a document is well-formed.** No id comes up twice, and every node declares
something of its own id; a node of the document declares something of the kind that it names. Every
edge, also a built-in one, joins two declarations of the kinds that its own kind prescribes. A name
leads to the last type of that name, and to nothing only if there is none. -/
theorem wellFormed_graph_of_read (h : read v = .ok g) (havoids : avoidsReserved v = true) :
    (g.nodes.map Node.id).Nodup ∧
    (∀ n ∈ g.nodes, ∃ d, n.declaration = some d ∧ d.id = n.id ∧ g.declaration n.id = .ok d ∧
      g.nodeKind n.id = .ok (some d.kind)) ∧
    (∀ node ∈ nodesOf v, ∃ members id kind, node = .obj members ∧
      Value.member members "id" = .str id ∧ Value.member members "kind" = .str (NodeKind.name kind) ∧
      g.nodeKind id = .ok (some kind)) ∧
    (∀ e ∈ g.edges, ∃ s t, g.declaration e.source = .ok s ∧ g.declaration e.target = .ok t ∧
      e.kind.ends? = some (s.kind, t.kind)) ∧
    ∀ q : Text,
      (g.typeOf (.str q) = .ok none ↔ ∀ t ∈ g.typeDecls, t.qualifiedName ≠ .str q) ∧
      ∀ d, g.typeOf (.str q) = .ok (some d) ↔
        ∃ before t after, g.typeDecls = before ++ t :: after ∧ d = .typeDecl t ∧
          t.qualifiedName = .str q ∧ ∀ u ∈ after, u.qualifiedName ≠ .str q := by
  obtain ⟨hwf, hnodes⟩ := read_wellFormed h havoids
  refine ⟨hwf.declared.nodup, ?_, ?_, ?_, fun q =>
    ⟨SymbolGraph.typeOf_eq_none_iff hwf q, SymbolGraph.typeOf_eq_some_iff hwf q⟩⟩
  · intro n hn
    obtain ⟨d, hd, hid⟩ := hwf.declared.declared n hn
    have hdecl := (hwf.declared.declaration?_of_mem hn).trans hd
    exact ⟨d, hd, hid, SymbolGraph.declaration_of_declaration? hdecl,
      SymbolGraph.nodeKind_of_declaration? hdecl⟩
  · intro node hnode
    obtain ⟨d, ⟨members, hobj, hid, hkind, -⟩, hdecl⟩ := hnodes node hnode
    exact ⟨members, d.id, d.kind, hobj, hid, hkind, SymbolGraph.nodeKind_of_declaration? hdecl⟩
  · intro e he
    obtain ⟨s, t, hs, ht, hends⟩ := hwf.fitting e he
    exact ⟨s, t, SymbolGraph.declaration_of_declaration? hs,
      SymbolGraph.declaration_of_declaration? ht, hends⟩

end Document

/-! ### A small document -/

namespace Sample

/-- A node of a document. -/
def node (id kind : Text) (attrs : Value.Members) : Value :=
  .obj [("id", .str id), ("kind", .str kind), ("attrs", .obj attrs)]

/-- An edge of a document. -/
def edge (source target kind : Text) : Value :=
  .obj [("src", .str source), ("dst", .str target), ("type", .str kind)]

/-- The mark of a preferences holder. -/
def holderMark : Value := .arr [.obj [("type", .str Vocabulary.preferencesMarker)]]

/-- The mark of a preference, with what the annotation gives. -/
def preferenceMark (arguments : Value.Members) : Value :=
  .arr [.obj [("type", .str Vocabulary.preferenceMarker), ("arguments", .obj arguments)]]

/-- An interface with a valid preference, one whose converter cannot be constructed, and a property
that is no preference; a class marked as a holder; and an interface whose converter is unknown. -/
def document : Value :=
  .obj
    [("nodes", .arr
      [node "settings" "TypeDecl" [("name", .str "Settings"), ("kind", .str "interface"),
          ("source_file", .str "settings.kt"), ("annotations", holderMark)],
        node "theme" "Property" [("name", .str "theme"), ("type", .str "kotlin.String"),
          ("annotations", preferenceMark [("key", .str "theme"), ("default", .str "dark")])],
        node "size" "Property" [("name", .str "size"), ("type", .str "kotlin.Int"),
          ("annotations", preferenceMark [("key", .str "size"), ("default", .str "1"),
            ("converter", .str Vocabulary.converterInterface)])],
        node "note" "Property" [("name", .str "note"), ("type", .str "kotlin.String")],
        node "legacy" "TypeDecl" [("name", .str "Legacy"), ("annotations", holderMark)],
        node "later" "TypeDecl" [("name", .str "Later"), ("kind", .str "interface"),
          ("annotations", holderMark)],
        node "zone" "Property" [("name", .str "zone"), ("type", .str "kotlin.String"),
          ("annotations", preferenceMark [("key", .str "zone"), ("default", .str ""),
            ("converter", .str "ZoneConverter")])]]),
      ("edges", .arr
        [edge "settings" "theme" "HAS_PROPERTY", edge "settings" "size" "HAS_PROPERTY",
          edge "settings" "note" "HAS_PROPERTY", edge "later" "zone" "HAS_PROPERTY",
          edge "legacy" "type:kotlin.String" "INHERITS"])]

/-- The graph of a document that is accepted. -/
def graphOf (v : Value) : SymbolGraph :=
  match Document.read v with
  | .ok g => g
  | .error _ => {}

theorem read_graphOf {v : Value} (h : (Document.read v).toOption.isSome = true) :
    Document.read v = .ok (graphOf v) := by
  unfold graphOf
  cases hread : Document.read v with
  | ok g => rfl
  | error failure => simp [hread, Except.toOption] at h

/-- The graph of the document. -/
def graph : SymbolGraph := graphOf document

theorem read_document : Document.read document = .ok graph := read_graphOf (by decide +kernel)

end Sample

/-- The graph of the sample is well-formed, down to its edge into a built-in type. -/
theorem wellFormed_graph_of_sample :
    Document.read Sample.document = .ok Sample.graph ∧
      Document.avoidsReserved Sample.document = true ∧
      (Sample.graph.nodes.map Node.id).Nodup ∧
      ∃ s t, Sample.graph.declaration "legacy" = .ok s ∧
        Sample.graph.declaration "type:kotlin.String" = .ok t ∧
        EdgeKind.inherits.ends? = some (s.kind, t.kind) := by
  have havoids : Document.avoidsReserved Sample.document = true := by decide +kernel
  obtain ⟨hnodup, -, -, hedges, -⟩ := Document.wellFormed_graph_of_read Sample.read_document havoids
  have hedge : ⟨"legacy", "type:kotlin.String", .inherits⟩ ∈ Sample.graph.edges := by
    decide +kernel
  exact ⟨Sample.read_document, havoids, hnodup, hedges _ hedge⟩

end KotlinPreferences
