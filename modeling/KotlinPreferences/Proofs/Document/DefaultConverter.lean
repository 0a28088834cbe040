import KotlinPreferences.Proofs.Document.Verdicts

/-!
# The converter of texts

A preference that names no converter is read with the built-in one, which leaves texts as they are. It
is put together from a type, two functions, their parameters and the edges between them, and then found
again by its name and by those edges. A document may let edges lead to all of them, and may declare
whatever else it likes; as long as nothing stands in the place of a part, and no edge leads away from
the converter, it works.

* `SymbolGraph.TakesTexts`, `assignable_text_iff`: the types for which a text may stand;
* `Document.LeavesConverter`: a document leaves the converter of texts as it is;
* `SymbolGraph.HasTextConverter`, `Document.hasTextConverter_of_read`: what is found of the converter in
  the graph of such a document;
* `Document.defaultConverter_of_read`: the verdict on a preference without a converter.
-/

namespace KotlinPreferences

open SymbolGraph

/-! ### Types for which a text may stand -/

namespace SymbolGraph

variable {g : SymbolGraph} {declared : TypeRef}

/-- A text may stand for a value of a type: this is `kotlin.Any`, or it has no arguments and is
`kotlin.String`, or else some type of its name is a supertype of what that name leads to. Whether null
is among its values does not matter. -/
def TakesTexts (g : SymbolGraph) (declared : TypeRef) : Prop :=
  declared.name = Vocabulary.anyType ∨ declared.arguments = [] ∧
    (declared.name = Vocabulary.stringType ∨
      ∃ d, g.typeNamed? (.str Vocabulary.stringType) = some d ∧ ∃ t ∈ g.typeDecls,
        t.qualifiedName = .str declared.name ∧ Relation.TransGen g.Extends d.id t.id)

theorem argumentsFit_text_iff : ArgumentsFit declared Builtin.text ↔ declared.arguments = [] :=
  or_self_iff

theorem assignable_text_iff : g.Assignable declared Builtin.text ↔ g.TakesTexts declared := by
  rw [assignable_iff_widens (.inl rfl), TakesTexts]
  by_cases hany : declared.name = Vocabulary.anyType
  · exact iff_of_true (.any hany) (.inl hany)
  · rw [or_iff_right hany]
    by_cases hname : declared.name = Vocabulary.stringType
    · rw [widens_iff_of_eq hany hname, argumentsFit_text_iff]
      exact (and_iff_left (.inl hname)).symm
    · rw [widens_iff_of_ne hany hname, argumentsFit_text_iff, or_iff_right hname]
      rfl

end SymbolGraph

/-! ### What is found of the converter -/

namespace Builtin

/-- The built-in converter of texts. -/
def converter : TypeDecl := typeDecl Vocabulary.stringConverter .classType

/-- A function of the converter, which takes a text and gives one. -/
def functionOf (name : Text) : Function := ⟨functionId name, name, some text, false⟩

end Builtin

/-- The name of the converter of texts leads to it, it can be constructed without arguments, and it
reads texts. -/
structure SymbolGraph.HasTextConverter (g : SymbolGraph) : Prop where
  named : g.typeNamed? (.str Vocabulary.stringConverter) = some (.typeDecl Builtin.converter)
  constructible : g.Constructible Builtin.converter
  reads : g.reader? Builtin.converter = some (Builtin.functionOf "parse")

namespace Document

variable {g : SymbolGraph} {v : Value} {nodes edges : List Value} {own : List Declaration}
  {joined : List Edge} {e : Edge} {f : Function} {t : TypeDecl}

/-! ### Documents that leave the converter as it is -/

/-- The edges of a document. -/
def edgesOf (v : Value) : List Value :=
  match parts v with
  | .ok (_, edges) => edges
  | .error _ => []

/-- An edge does not lead away from the node of an id. -/
def startsElsewhere (id : Text) : Value → Bool
  | .obj members =>
    match Value.member members "src" with
    | .str source => source != id
    | _ => true
  | _ => true

/-- A document leaves the converter of texts as it is: no declaration takes its id, its name or one of
the ids of its functions and their parameters, and no edge leads away from it. -/
structure LeavesConverter (v : Value) : Prop where
  avoids : avoidsReserved v = true
  undeclared : ¬DeclaresConverter v
  bare : ∀ edge ∈ edgesOf v, startsElsewhere (Builtin.typeId Vocabulary.stringConverter) edge = true

theorem undeclared_iff (hparts : parts v = .ok (nodes, edges))
    (hgives : List.Forall₂ Gives nodes own) :
    ¬DeclaresConverter v ↔ leavesFree own Vocabulary.stringConverter = true := by
  rw [leavesFree_iff, DeclaresConverter, nodesOf_eq hparts]
  constructor
  · intro hnone d hd
    obtain ⟨node, hnode, hgives⟩ := exists_of_mem_forall₂ hgives hd
    refine ⟨fun hid => hnone ⟨node, hnode, d, hgives, .inl hid⟩, fun hkey => ?_⟩
    obtain ⟨t, rfl, hq⟩ := nameKey?_eq_str_iff.1 hkey
    exact hnone ⟨node, hnode, _, hgives, .inr (congrArg some hq)⟩
  · rintro hfree ⟨node, hnode, d, hd, hconverter⟩
    obtain ⟨d', hd', hgives'⟩ := exists_of_mem_forall₂ hgives.flip hnode
    obtain rfl := hd.unique hgives'
    obtain ⟨hid, hkey⟩ := hfree d hd'
    rcases hconverter with hconverter | hconverter
    · exact hid hconverter
    · exact hkey (by rw [nameKey?, hconverter]; rfl)

theorem source_ne_of_startsElsewhere {id : Text} {edge : Value} (hjoins : Says edge e)
    (h : startsElsewhere id edge = true) : e.source ≠ id := by
  obtain ⟨members, rfl, -, hsource, -⟩ := hjoins
  simpa [startsElsewhere, hsource] using h

/-! ### The parts of the converter -/

section Parts

variable (hwf : g.WellFormed) (hfree : leavesFree own Vocabulary.stringConverter = true)
  (hnodes : g.nodes = (own ++ builtins own).map Declaration.node)

include hfree

theorem typeDecl_converter_mem : .typeDecl Builtin.converter ∈ own ++ builtins own := by
  refine List.mem_append_right own (List.mem_append_left _ ?_)
  exact List.mem_map.2 ⟨(Vocabulary.stringConverter, .classType),
    List.mem_filter.2 ⟨by simp [Builtin.types], hfree⟩, rfl⟩

theorem functionOf_mem {name : Text} (hname : name = "parse" ∨ name = "format") :
    .function (Builtin.functionOf name) ∈ own ++ builtins own := by
  refine List.mem_append_right own (List.mem_append_right _ ?_)
  rw [if_pos hfree]
  rcases hname with rfl | rfl
  · exact List.mem_cons_self
  · exact List.mem_cons_of_mem _ (List.mem_cons_of_mem _ List.mem_cons_self)

/-- No other type has the name of the converter. -/
theorem eq_converter_of_mem (ht : .typeDecl t ∈ own ++ builtins own)
    (hname : t.qualifiedName = .str Vocabulary.stringConverter) : t = Builtin.converter := by
  rcases List.mem_append.1 ht with hown | hbuiltin
  · exact absurd (nameKey?_eq_str_iff.2 ⟨t, rfl, hname⟩) (leavesFree_iff.1 hfree _ hown).2
  · rcases List.mem_append.1 hbuiltin with htype | hreserved
    · obtain ⟨⟨q, kind⟩, hmem, heq⟩ := List.mem_map.1 htype
      cases heq
      obtain rfl : q = Vocabulary.stringConverter := Value.str.inj hname
      have hkind : kind = .classType := by
        simpa [Builtin.types, Vocabulary.stringConverter, Vocabulary.anyType, Vocabulary.stringType,
          Vocabulary.converterInterface] using (List.mem_filter.1 hmem).1
      rw [hkind]
      rfl
    · rw [if_pos hfree] at hreserved
      simp [Builtin.reserved, Builtin.converterFunction, Builtin.converterParameter] at hreserved

include hwf hnodes

/-- The name of the converter leads to the converter. -/
theorem typeNamed?_converter :
    g.typeNamed? (.str Vocabulary.stringConverter) = some (.typeDecl Builtin.converter) := by
  have hmem : Builtin.converter ∈ g.typeDecls := hwf.declared.mem_typeDecls_iff.2
    ((declaration?_iff_of_nodes hwf.declared hnodes).2 ⟨typeDecl_converter_mem hfree, rfl⟩)
  cases hd : g.typeNamed? (.str Vocabulary.stringConverter) with
  | none =>
    have hnone : g.typeOf (.str Vocabulary.stringConverter) = .ok none := congrArg Except.ok hd
    exact absurd rfl ((typeOf_eq_none_iff hwf _).1 hnone _ hmem)
  | some d =>
    obtain ⟨t, ht, rfl, hname⟩ := hwf.exists_of_typeNamed? hd
    have ht := (declaration?_iff_of_nodes hwf.declared hnodes).1 (hwf.declared.mem_typeDecls_iff.1 ht)
    rw [eq_converter_of_mem hfree ht.1 hname]

/-- Nothing else stands under the id of one of its functions. -/
theorem eq_functionOf_of_id {name : Text} (hname : name = "parse" ∨ name = "format")
    (hf : .function f ∈ own ++ builtins own) (hid : f.id = Builtin.functionId name) :
    f = Builtin.functionOf name := by
  have hdeclared : ∀ f, .function f ∈ own ++ builtins own → f.id = Builtin.functionId name →
      g.declaration? (Builtin.functionId name) = some (.function f) := fun f hf hid =>
    (declaration?_iff_of_nodes hwf.declared hnodes).2 ⟨hf, hid⟩
  have hsame := (hdeclared f hf hid).symm.trans (hdeclared _ (functionOf_mem hfree hname) rfl)
  exact Declaration.function.inj (Option.some.inj hsame)

variable (hedges : g.edges = builtinEdges g own ++ joined)
  (hbare : ∀ e ∈ joined, e.source ≠ Builtin.typeId Vocabulary.stringConverter)

include hedges hbare

/-- No function is the converter's but its own two. -/
theorem eq_functionOf_of_leads (he : e ∈ g.edges)
    (hleads : Leads (own ++ builtins own) Builtin.converter e f) :
    f = Builtin.functionOf "parse" ∨ f = Builtin.functionOf "format" := by
  obtain ⟨⟨hsource, hkind⟩, hf, hid⟩ := hleads
  rw [hedges, builtinEdges, if_pos hfree] at he
  rcases List.mem_append.1 he with he | he
  · rcases List.mem_append.1 he with he | he
    · -- the edge to the interface leads to no function
      obtain ⟨d, -, rfl⟩ := Option.map_eq_some_iff.1 (Option.mem_toList.1 he)
      cases hkind
    · simp only [Builtin.converterEdges, List.mem_cons, List.not_mem_nil, or_false] at he
      rcases he with rfl | rfl | rfl | rfl
      · exact .inl (eq_functionOf_of_id hwf hfree hnodes (.inl rfl) hf hid)
      · cases hkind
      · exact .inr (eq_functionOf_of_id hwf hfree hnodes (.inr rfl) hf hid)
      · cases hkind
  · exact absurd hsource (hbare e he)

/-- **The converter is found whole.** -/
theorem hasTextConverter : g.HasTextConverter where
  named := typeNamed?_converter hwf hfree hnodes
  constructible := by
    refine (constructible_iff hwf hnodes).2 (.inr ⟨fun e he f hleads => ?_, rfl⟩)
    rcases eq_functionOf_of_leads hwf hfree hnodes hedges hbare he hleads with rfl | rfl
    · rfl
    · rfl
  reads := by
    refine (reader?_eq_some_iff hwf hnodes).2 ⟨⟨rfl, rfl⟩, ?_⟩
    rw [hedges, builtinEdges, if_pos hfree, List.append_assoc]
    -- in front of the edge to the function stands at most the edge to the interface
    refine ⟨_, Builtin.functionEdge "parse", _, rfl,
      ⟨⟨rfl, rfl⟩, functionOf_mem hfree (.inl rfl), rfl⟩, fun e he f hleads => ?_⟩
    obtain ⟨d, -, rfl⟩ := Option.map_eq_some_iff.1 (Option.mem_toList.1 he)
    cases hleads.1.2

end Parts

/-! ### Preferences without a converter -/

/-- Where a document leaves the converter as it is, it is found whole. -/
theorem hasTextConverter_of_read (h : read v = .ok g) (hleaves : LeavesConverter v) :
    g.HasTextConverter := by
  obtain ⟨nodes, edges, own, joined, hparts, hgives, hsays, hnodes, hedges⟩ :=
    contents_of_read h hleaves.avoids
  have hbare : ∀ e ∈ joined, e.source ≠ Builtin.typeId Vocabulary.stringConverter := by
    intro e he
    obtain ⟨edge, hedge, hsays⟩ := exists_of_mem_forall₂ hsays he
    refine source_ne_of_startsElsewhere hsays (hleaves.bare edge ?_)
    rw [edgesOf, hparts]
    exact hedge
  exact hasTextConverter (read_wellFormed h hleaves.avoids).1
    ((undeclared_iff hparts hgives).1 hleaves.undeclared) hnodes hedges hbare

/-- **The converter of texts always works.** Whatever else a document declares, a preference that names
no converter is valid if a text may stand for a value of its type, and otherwise the types do not
match. -/
theorem defaultConverter_of_read (h : read v = .ok g) (hleaves : LeavesConverter v)
    (hnames : ∀ t ∈ g.typeDecls, t.qualifiedName.isText = true) {holder : TypeDecl} {q : Property}
    {p : Preference} (hp : Preference.of? (.typeDecl holder) (.property q) = .ok (some p))
    (hkey : (Value.member? p.entry.arguments "key").isSome = true)
    (hdefault : (Value.member? p.entry.arguments "default").isSome = true)
    (hconverter : (Value.member p.entry.arguments "converter").truthy = false) :
    (p.validate g = .ok .valid ↔ g.TakesTexts q.type) ∧
      (p.validate g = .ok (.typeMismatch (holder.qualifiedName.text ++ "." ++ q.name)) ↔
        ¬g.TakesTexts q.type) := by
  have hwf := (read_wellFormed h hleaves.avoids).1
  obtain ⟨hnamed, hconstructible, hreads⟩ := hasTextConverter_of_read h hleaves
  obtain ⟨entry, -, rfl⟩ : ∃ entry, entryOf? q.annotations Vocabulary.preferenceMarker = some entry ∧
      ⟨.typeDecl holder, .property q, entry⟩ = p := by
    simpa [Preference.of?, Declaration.annotations?] using hp
  obtain ⟨key, hkey⟩ := Option.isSome_iff_exists.1 hkey
  obtain ⟨default, hdefault⟩ := Option.isSome_iff_exists.1 hdefault
  have hname : Preference.converterName entry = .str Vocabulary.stringConverter := by
    simp [Preference.converterName, hconverter]
  have harguments : Preference.arguments g ⟨.typeDecl holder, .property q, entry⟩ =
      .ok ⟨key, default, .typeDecl Builtin.converter⟩ :=
    arguments_eq_ok_iff.2 ⟨converter_eq_ok_iff.2 ⟨_, by rw [hname]; rfl, hnamed⟩, hkey, hdefault⟩
  have hfinding : Holder.Finding g holder q.name q.type Builtin.converter
      (Preference.validate g ⟨.typeDecl holder, .property q, entry⟩) :=
    Holder.finding_of_arguments hwf (hwf.declared.keyed hnames) rfl rfl harguments
  have hreturn : (Builtin.functionOf "parse").returnType = some Builtin.text := rfl
  simp [hfinding.valid_iff, hfinding.mismatch_iff, hconstructible, hreads, hreturn,
    assignable_text_iff]

end Document

namespace Sample

/-- A holder with one preference, which may be null and names no converter. The document declares the
type of texts itself, with two supertypes one above the other. It also makes a type inherit from the
built-in converter and share its reading function, which it gives one more parameter. -/
def comparable : Value :=
  .obj
    [("nodes", .arr
      [node "settings" "TypeDecl" [("name", .str "Settings"), ("kind", .str "interface")],
        node "order" "Property" [("name", .str "order"), ("type", .str "kotlin.Comparable?"),
          ("annotations", preferenceMark [("key", .str "order"), ("default", .str ""),
            ("converter", .str "")])],
        node "string" "TypeDecl" [("name", .str "String"), ("qualified_name", .str "kotlin.String")],
        node "chars" "TypeDecl" [("name", .str "CharSequence"), ("kind", .str "interface")],
        node "comparable" "TypeDecl" [("name", .str "Comparable"),
          ("qualified_name", .str "kotlin.Comparable"), ("kind", .str "interface")],
        node "trimming" "TypeDecl" [("name", .str "Trimming")],
        node "radix" "Parameter" [("name", .str "radix")]]),
      ("edges", .arr
        [edge "settings" "order" "HAS_PROPERTY", edge "string" "chars" "IMPLEMENTS",
          edge "chars" "comparable" "INHERITS",
          edge "trimming" (Builtin.typeId Vocabulary.stringConverter) "INHERITS",
          edge "trimming" (Builtin.functionId "parse") "HAS_FUNCTION",
          edge "radix" (Builtin.functionId "parse") "PARAM_OF"])]

theorem read_comparable : Document.read comparable = .ok (graphOf comparable) :=
  read_graphOf (by decide +kernel)

theorem leavesConverter_comparable : Document.LeavesConverter comparable := by
  have havoids : Document.avoidsReserved comparable = true := by decide +kernel
  have hfree : (((Document.nodesOf comparable).mapM Document.given).toOption.any fun own =>
      Document.leavesFree own Vocabulary.stringConverter) = true := by decide +kernel
  obtain ⟨own, hgiven, hfree⟩ := (Option.any_eq_true _ _).1 hfree
  have hgives := (mapM_eq_ok_iff.1 (eq_ok_of_toOption hgiven)).imp fun _ _ hd =>
    (Document.given_eq_ok_iff.1 hd).1
  exact ⟨havoids, (Document.undeclared_iff rfl hgives).2 hfree, by decide +kernel⟩

end Sample

namespace Document

/-- Texts are comparable, so the preference is valid. -/
theorem verdict_of_comparable :
    read Sample.comparable = .ok (Sample.graphOf Sample.comparable) ∧
    LeavesConverter Sample.comparable ∧
    (∀ t ∈ (Sample.graphOf Sample.comparable).typeDecls, t.qualifiedName.isText = true) ∧
    ∃ (holder : TypeDecl) (q : Property) (p : Preference),
      Preference.of? (.typeDecl holder) (.property q) = .ok (some p) ∧
      (Value.member? p.entry.arguments "key").isSome = true ∧
      (Value.member? p.entry.arguments "default").isSome = true ∧
      (Value.member p.entry.arguments "converter").truthy = false ∧
      q.type = ⟨"kotlin.Comparable", true, []⟩ ∧
      p.validate (Sample.graphOf Sample.comparable) = .ok .valid := by
  have hnames : ((Sample.graphOf Sample.comparable).typeDecls.all fun t =>
      t.qualifiedName.isText) = true := by decide +kernel
  rw [List.all_eq_true] at hnames
  have hpreference : ((Sample.preferenceAt? (Sample.graphOf Sample.comparable) "settings" "order").any
      fun p => (Value.member? p.entry.arguments "key").isSome &&
        (Value.member? p.entry.arguments "default").isSome &&
        !(Value.member p.entry.arguments "converter").truthy && p.property.kind == .property &&
        p.property.type? == some ⟨"kotlin.Comparable", true, []⟩) = true := by decide +kernel
  obtain ⟨p, hp, hpreference⟩ := (Option.any_eq_true _ _).1 hpreference
  simp only [Bool.and_eq_true, Bool.not_eq_true', beq_iff_eq] at hpreference
  obtain ⟨⟨⟨⟨hkey, hdefault⟩, hconverter⟩, hkind⟩, htype⟩ := hpreference
  obtain ⟨holder, -, hp⟩ := Option.bind_eq_some_iff.1 hp
  obtain ⟨d, -, hp⟩ := Option.bind_eq_some_iff.1 hp
  have hproperty : p.property = d := by
    obtain ⟨entries, -, hentry⟩ := Option.bind_eq_some_iff.1 hp
    obtain ⟨entry, -, rfl⟩ := Option.map_eq_some_iff.1 hentry
    rfl
  rw [hproperty] at hkind htype
  cases d <;> cases hkind
  rename_i q
  have htype : q.type = ⟨"kotlin.Comparable", true, []⟩ := Option.some.inj htype
  have hof : Preference.of? (.typeDecl holder) (.property q) = .ok (some p) := congrArg Except.ok hp
  have hwf := (read_wellFormed Sample.read_comparable Sample.leavesConverter_comparable.avoids).1
  -- from texts the path leads over sequences of characters to what is comparable
  have hfirst : (Sample.graphOf Sample.comparable).Extends "string" "chars" :=
    ⟨⟨"string", "chars", .implements⟩, by decide +kernel, rfl, rfl, .inr rfl⟩
  have hsecond : (Sample.graphOf Sample.comparable).Extends "chars" "comparable" :=
    ⟨⟨"chars", "comparable", .inherits⟩, by decide +kernel, rfl, rfl, .inl rfl⟩
  have htakes : (Sample.graphOf Sample.comparable).TakesTexts ⟨"kotlin.Comparable", true, []⟩ :=
    assignable_text_iff.1 ⟨.inl rfl, hwf.widens_of_transGen (by decide) (.inl rfl) (by decide +kernel)
      (by decide +kernel) (.tail (.single hfirst) hsecond)⟩
  have hverdict := (defaultConverter_of_read Sample.read_comparable Sample.leavesConverter_comparable
    hnames hof hkey hdefault hconverter).1
  exact ⟨Sample.read_comparable, Sample.leavesConverter_comparable, hnames, holder, q, p, hof, hkey,
    hdefault, hconverter, htype, hverdict.2 (htype ▸ htakes)⟩

end Document

end KotlinPreferences
