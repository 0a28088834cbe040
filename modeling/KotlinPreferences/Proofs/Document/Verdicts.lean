import KotlinPreferences.Proofs.Document.Members
import KotlinPreferences.Proofs.Preference.Verdicts

/-!
# Verdicts in the words of a document

The verdict on a preference of a consistent holder, said by the declarations and the edges of the
document: whether the converter can be constructed without arguments, with which function it reads
texts, and whether what it reads may stand for the declared type.

* `Document.Leads`: a function edge leads from a type to a function;
* `Document.Constructs`, `constructible_iff`: a type can be constructed without arguments;
* `Document.ReadsWith`, `reader?_eq_some_iff`: the function with which a type reads texts;
* `Document.Decided`, `Document.verdicts_of_read`: the verdicts.
-/

namespace KotlinPreferences

namespace Document

open SymbolGraph

variable {g : SymbolGraph} {v : Value} {ds : List Declaration} {es : List Edge} {t : TypeDecl}
  {f : Function} {e : Edge}

/-! ### Converters -/

/-- A function edge leads from a type to a function. -/
def Leads (ds : List Declaration) (t : TypeDecl) (e : Edge) (f : Function) : Prop :=
  (e.source = t.id ∧ e.kind = .hasFunction) ∧ .function f ∈ ds ∧ f.id = e.target

/-- A type can be constructed without arguments: an edge leads to a constructor into which no
parameter edge leads, or none leads to a constructor and the type is a class. -/
def Constructs (ds : List Declaration) (es : List Edge) (t : TypeDecl) : Prop :=
  (∃ e ∈ es, ∃ f, Leads ds t e f ∧ f.isConstructor = true ∧
      ∀ e' ∈ es, e'.kind = .paramOf → e'.target ≠ f.id) ∨
    (∀ e ∈ es, ∀ f, Leads ds t e f → f.isConstructor = false) ∧ t.kind = .classType

/-- A function that may read texts. -/
def Reads (f : Function) : Prop := f.isConstructor = false ∧ f.name = "parse"

/-- The function with which a type reads texts: an edge leads to it, and none in front of that edge
leads to a function that may read texts, too. -/
def ReadsWith (ds : List Declaration) (es : List Edge) (t : TypeDecl) (f : Function) : Prop :=
  Reads f ∧ ∃ before e after, es = before ++ e :: after ∧ Leads ds t e f ∧
    ∀ e' ∈ before, ∀ f', Leads ds t e' f' → ¬ Reads f'

section Nodes

variable (hwf : g.WellFormed) (hnodes : g.nodes = ds.map Declaration.node)

include hwf hnodes

theorem functionAt?_eq_some_iff : g.functionAt? e = some f ↔ .function f ∈ ds ∧ f.id = e.target := by
  constructor
  · intro hf
    exact function_mem_of_nodes hwf.declared hnodes hf
  · rintro ⟨hmem, hid⟩
    rw [functionAt?, (declaration?_iff_of_nodes hwf.declared hnodes).2 ⟨hmem, hid⟩]
    rfl

theorem leads_iff : Leads ds t e f ↔
    (e.source = t.id ∧ e.kind = .hasFunction) ∧ g.functionAt? e = some f := by
  rw [functionAt?_eq_some_iff hwf hnodes, Leads]

theorem mem_functionsOf_iff : f ∈ g.functionsOf t.id ↔ ∃ e ∈ g.edges, Leads ds t e f := by
  simp only [leads_iff hwf hnodes, functionsOf, List.mem_filterMap, mem_targetsOf_iff, functionAt?,
    Option.bind_eq_some_iff]
  constructor
  · rintro ⟨d, ⟨e, he, hsource, hkind, hd⟩, hf⟩
    exact ⟨e, he, ⟨hsource, hkind⟩, d, hd, hf⟩
  · rintro ⟨e, he, ⟨hsource, hkind⟩, d, hd, hf⟩
    exact ⟨d, ⟨e, he, hsource, hkind, hd⟩, hf⟩

/-- Whether a type can be constructed is told by the edges of the document. -/
theorem constructible_iff : g.Constructible t ↔ Constructs ds g.edges t := by
  simp only [Constructible, Constructs, mem_functionsOf_iff hwf hnodes]
  constructor
  · rintro (⟨f, ⟨e, he, hleads⟩, hconstructor, hplain⟩ | ⟨hnone, hclass⟩)
    · exact .inl ⟨e, he, f, hleads, hconstructor, hplain⟩
    · exact .inr ⟨fun e he f hleads => hnone f ⟨e, he, hleads⟩, hclass⟩
  · rintro (⟨e, he, f, hleads, hconstructor, hplain⟩ | ⟨hnone, hclass⟩)
    · exact .inl ⟨f, ⟨e, he, hleads⟩, hconstructor, hplain⟩
    · exact .inr ⟨fun f ⟨e, he, hleads⟩ => hnone e he f hleads, hclass⟩

/-- The edges over which a type finds a function to read texts with. -/
theorem leads_reads_iff : (decide (e.source = t.id ∧ e.kind = .hasFunction) &&
    (g.functionAt? e).any fun f => !f.isConstructor && f.name == ("parse" : Text)) = true ↔
      ∃ f, Leads ds t e f ∧ Reads f := by
  simp only [leads_iff hwf hnodes, Reads, Bool.and_eq_true, decide_eq_true_eq, Option.any_eq_true,
    Bool.not_eq_true', beq_iff_eq]
  constructor
  · rintro ⟨hedge, f, hf, hreads⟩
    exact ⟨f, ⟨hedge, hf⟩, hreads⟩
  · rintro ⟨f, ⟨hedge, hf⟩, hreads⟩
    exact ⟨hedge, f, hf, hreads⟩

/-- The function with which a type reads texts is that of the first edge in the document. -/
theorem reader?_eq_some_iff : g.reader? t = some f ↔ ReadsWith ds g.edges t f := by
  rw [hwf.reader?_eq, Option.bind_eq_some_iff]
  simp only [List.find?_eq_some_iff_append, leads_reads_iff hwf hnodes, Bool.not_eq_true',
    ← Bool.not_eq_true, ReadsWith]
  constructor
  · rintro ⟨e, ⟨⟨f', hleads, hreads⟩, before, after, hedges, hnone⟩, hf⟩
    have hfirst := (leads_iff hwf hnodes).1 hleads
    rw [hf, Option.some.injEq] at hfirst
    obtain ⟨hedge, rfl⟩ := hfirst
    exact ⟨hreads, before, e, after, hedges, hleads, fun e' he' f' hleads' hreads' =>
      hnone e' he' ⟨f', hleads', hreads'⟩⟩
  · rintro ⟨hreads, before, e, after, hedges, hleads, hnone⟩
    exact ⟨e, ⟨⟨f, hleads, hreads⟩, before, after, hedges, fun e' he' ⟨f', hleads', hreads'⟩ =>
      hnone e' he' f' hleads' hreads'⟩, ((leads_iff hwf hnodes).1 hleads).2⟩

/-- A type that can be constructed reads nothing if that function is missing or has no return type. -/
theorem readsNothing_iff : g.ReadsNothing t ↔
    Constructs ds g.edges t ∧ ∀ f, ReadsWith ds g.edges t f → f.returnType = none := by
  simp only [← constructible_iff hwf hnodes, ← reader?_eq_some_iff hwf hnodes]
  constructor
  · rintro ⟨hconstructible, hnone⟩
    exact ⟨hconstructible, hnone⟩
  · rintro ⟨hconstructible, hnone⟩
    exact ⟨hconstructible, hnone⟩

end Nodes

/-! ### Verdicts -/

/-- What a document with a graph says about the validation of a property with a converter. -/
structure Decided (g : SymbolGraph) (ds : List Declaration) (es : List Edge) (holder : TypeDecl)
    (q : Property) (t : TypeDecl) (result : Except Failure Verdict) : Prop where
  /-- The converter cannot be constructed without arguments. -/
  noConstructor : result = .ok (.noConstructor t.qualifiedName) ↔ ¬ Constructs ds es t
  /-- It can, but it declares no function to read texts with, or one without a return type. -/
  fails : (∃ failure, result = .error failure ∧ failure.family = .badLookup) ↔
    Constructs ds es t ∧ ∀ f, ReadsWith ds es t f → f.returnType = none
  /-- What it reads may stand for a value of the declared type. -/
  valid : result = .ok .valid ↔ Constructs ds es t ∧ ∃ f given, ReadsWith ds es t f ∧
    f.returnType = some given ∧ g.Assignable q.type given
  /-- It may not. -/
  mismatch : result = .ok (.typeMismatch (holder.qualifiedName.text ++ "." ++ q.name)) ↔
    Constructs ds es t ∧ ∃ f given, ReadsWith ds es t f ∧ f.returnType = some given ∧
      ¬ g.Assignable q.type given

theorem decided_of_finding (hwf : g.WellFormed) (hnodes : g.nodes = ds.map Declaration.node)
    {holder : TypeDecl} {q : Property} {result : Except Failure Verdict}
    (h : Holder.Finding g holder q.name q.type t result) :
    Decided g ds g.edges holder q t result where
  noConstructor := h.noConstructor_iff.trans (not_congr (constructible_iff hwf hnodes))
  fails := h.fails_iff.trans (readsNothing_iff hwf hnodes)
  valid := by
    simp only [h.valid_iff, constructible_iff hwf hnodes, reader?_eq_some_iff hwf hnodes]
  mismatch := by
    simp only [h.mismatch_iff, constructible_iff hwf hnodes, reader?_eq_some_iff hwf hnodes]

/-- Where no fault is found in a preference, nothing is reported about it. -/
theorem preferenceStep_silent {p : Preference} {options : Options}
    (h : p.validate g = .ok .valid ∨ ∃ failure, p.validate g = .error failure) :
    (Holder.preferenceStep g options p).diagnostics = [] := by
  rcases h with hvalid | ⟨failure, hfails⟩
  · simp only [Holder.preferenceStep, Report.ofResult, Report.bind_def, hvalid, Verdict.error?,
      Holder.variableStep]
    cases Holder.accessor g options p <;> rfl
  · simp [Holder.preferenceStep, Report.ofResult, Report.bind_def, hfails]

/-- What consistency says about a property of a holder, and about its validation. -/
theorem finding_of_consistent (hwf : g.WellFormed) (hkeyed : g.Keyed) {holder : TypeDecl}
    (hready : g.isConsistent holder.id = .ok true) {q : Property}
    (hq : .property q ∈ g.targetsOf holder.id .hasProperty) {p : Preference}
    (hp : Preference.of? (.typeDecl holder) (.property q) = .ok (some p)) :
    ∃ t, p.converter g = .ok (.typeDecl t) ∧
      Holder.Finding g holder q.name q.type t (p.validate g) := by
  rw [isConsistent, hwf.sound.properties_eq, ok_bind, allM_eq_ok_true_iff] at hready
  have hresolves := hready _ hq
  rw [Holder.of?_eq_preferenceOf? hresolves, Except.ok.injEq] at hp
  obtain ⟨q', t, hq', htype, hfinding⟩ :=
    (Holder.resolved_of_preferenceOf? hresolves hp).finding hwf hkeyed
  obtain ⟨entry, -, rfl⟩ := Option.map_eq_some_iff.1 hp
  cases hq'
  exact ⟨t, by rw [Preference.converter, htype]; rfl, hfinding⟩

/-- **The verdict on a property, in the words of the document.** A preference of a consistent holder
has a converter. Its validation finds that the converter cannot be constructed exactly where the
document gives it no constructor without parameters. Otherwise the first edge to a function that reads
texts counts, and there the validation fails with a lookup if there is no such edge, or no return type;
it is valid if the return type is assignable to the declared type; and a mismatch if not. Unless a fault
is found, nothing is reported. The validation depends on graph and preference, and leaves both as they
are. -/
theorem verdicts_of_read (h : read v = .ok g) (havoids : avoidsReserved v = true)
    (hnames : ∀ t ∈ g.typeDecls, t.qualifiedName.isText = true) :
    ∃ ds es, Contains v g ds es ∧ (ds.map Declaration.id).Nodup ∧
      ∀ holder q p, .typeDecl holder ∈ ds → g.isConsistent holder.id = .ok true →
        .property q ∈ ds → q.id ∈ targetsIn es holder.id .hasProperty →
        Preference.of? (.typeDecl holder) (.property q) = .ok (some p) →
        ∃ t, .typeDecl t ∈ ds ∧ p.converter g = .ok (.typeDecl t) ∧
          Decided g ds es holder q t (p.validate g) ∧
          (Verdict.noConstructor t.qualifiedName).error? =
            some (t.qualifiedName.text ++ " does not have a no-arg constructor") ∧
          (Verdict.typeMismatch (holder.qualifiedName.text ++ "." ++ q.name)).error? =
            some ("Preference property's type and converter do not match on property " ++
              (holder.qualifiedName.text ++ "." ++ q.name)) ∧
          ((p.validate g = .ok .valid ∨ ∃ failure, p.validate g = .error failure) →
            ∀ options, (Holder.preferenceStep g options p).diagnostics = []) := by
  obtain ⟨ds, es, hcontains, hnodes, rfl⟩ := contains_of_read h havoids
  have hwf := (read_wellFormed h havoids).1
  have hdeclared : ∀ {id d}, g.declaration? id = some d ↔ d ∈ ds ∧ d.id = id :=
    declaration?_iff_of_nodes hwf.declared hnodes
  refine ⟨ds, g.edges, hcontains, ids_of_nodes hnodes ▸ hwf.declared.nodup, ?_⟩
  intro holder q p _ hready hq htarget hp
  have hmember : .property q ∈ g.targetsOf holder.id .hasProperty := by
    obtain ⟨e, he, hid⟩ := List.mem_map.1 htarget
    simp only [List.mem_filter, decide_eq_true_eq] at he
    exact mem_targetsOf_iff.2 ⟨e, he.1, he.2.1, he.2.2, hdeclared.2 ⟨hq, hid.symm⟩⟩
  obtain ⟨t, hconverter, hfinding⟩ :=
    finding_of_consistent hwf (hwf.declared.keyed hnames) hready hmember hp
  obtain ⟨key, -, ht⟩ := converter_eq_ok_iff.1 hconverter
  exact ⟨t, (hdeclared.1 (declaration?_of_typeNamed? hwf.declared ht)).1, hconverter,
    decided_of_finding hwf hnodes hfinding, rfl, rfl, fun hsilent _ => preferenceStep_silent hsilent⟩

end Document

namespace Sample

/-- A holder with a preference of numbers. Its converter has a constructor with a parameter and one
without; of its two functions named `parse` the first one reads numbers and the second one texts, and
there is a second edge to the first. -/
def overloaded : Value :=
  .obj
    [("nodes", .arr
      [node "settings" "TypeDecl" [("name", .str "Settings"), ("kind", .str "interface")],
        node "size" "Property" [("name", .str "size"), ("type", .str "kotlin.Int"),
          ("annotations", preferenceMark [("key", .str "size"), ("default", .str "1"),
            ("converter", .str "Sizes")])],
        node "sizes" "TypeDecl" [("name", .str "Sizes")],
        node "unit" "Parameter" [("name", .str "unit")],
        node "withUnit" "Function" [("name", .str "parse"), ("is_constructor", .bool true)],
        node "plain" "Function" [("name", .str "Sizes"), ("is_constructor", .bool true)],
        node "texts" "Function" [("name", .str "parse"), ("return_type", .str "kotlin.String")],
        node "numbers" "Function" [("name", .str "parse"), ("return_type", .str "kotlin.Int")]]),
      ("edges", .arr
        [edge "sizes" "withUnit" "HAS_FUNCTION", edge "unit" "withUnit" "PARAM_OF",
          edge "sizes" "numbers" "HAS_FUNCTION", edge "settings" "size" "HAS_PROPERTY",
          edge "sizes" "texts" "HAS_FUNCTION", edge "sizes" "plain" "HAS_FUNCTION",
          edge "sizes" "numbers" "HAS_FUNCTION"])]

theorem read_overloaded : Document.read overloaded = .ok (graphOf overloaded) :=
  read_graphOf (by decide +kernel)

/-- The preference at a property of a type. -/
def preferenceAt? (g : SymbolGraph) (holder property : Text) : Option Preference :=
  ((g.declaration? holder).bind Declaration.typeDecl?).bind fun t =>
    (g.declaration? property).bind (Holder.preferenceOf? t)

end Sample

namespace Document

open SymbolGraph

/-- The preference of numbers is valid, so the converter has a plain constructor, and the function it
reads with gives numbers. -/
theorem verdict_of_overloaded : read Sample.overloaded = .ok (Sample.graphOf Sample.overloaded) ∧
    avoidsReserved Sample.overloaded = true ∧
    (∀ t ∈ (Sample.graphOf Sample.overloaded).typeDecls, t.qualifiedName.isText = true) ∧
    ∃ (ds : List Declaration) (es : List Edge) (q : Property) (p : Preference) (t : TypeDecl),
      Contains Sample.overloaded (Sample.graphOf Sample.overloaded) ds es ∧
      p.converter (Sample.graphOf Sample.overloaded) = .ok (.typeDecl t) ∧
      p.validate (Sample.graphOf Sample.overloaded) = .ok .valid ∧
      Constructs ds es t ∧ ∃ f given, ReadsWith ds es t f ∧ f.returnType = some given ∧
        (Sample.graphOf Sample.overloaded).Assignable q.type given := by
  have havoids : avoidsReserved Sample.overloaded = true := by decide +kernel
  have hnames : ((Sample.graphOf Sample.overloaded).typeDecls.all fun t =>
      t.qualifiedName.isText) = true := by decide +kernel
  have hready : (Sample.graphOf Sample.overloaded).isConsistent "settings" = .ok true :=
    eq_ok_of_toOption (by decide +kernel)
  have htarget : ("size" : Text) ∈
      targetsIn (Sample.graphOf Sample.overloaded).edges "settings" .hasProperty := by decide +kernel
  have hvalid : ((Sample.preferenceAt? (Sample.graphOf Sample.overloaded) "settings" "size").any
      fun p => (p.validate (Sample.graphOf Sample.overloaded)).toOption.map Verdict.error? ==
        some none) = true := by decide +kernel
  rw [List.all_eq_true] at hnames
  obtain ⟨ds, es, hcontains, -, hverdicts⟩ := verdicts_of_read Sample.read_overloaded havoids hnames
  obtain ⟨hnodes, hedges⟩ := hcontains.of_read Sample.read_overloaded havoids
  have hdeclared := (read_wellFormed Sample.read_overloaded havoids).1.declared
  obtain ⟨p, hp, hverdict⟩ := (Option.any_eq_true _ _).1 hvalid
  obtain ⟨holder, hholder, hp⟩ := Option.bind_eq_some_iff.1 hp
  obtain ⟨d, hd, hp⟩ := Option.bind_eq_some_iff.1 hp
  obtain ⟨hholder, hid⟩ := typeDecl_mem_of_nodes hdeclared hnodes hholder
  obtain ⟨hmem, hsize⟩ := (declaration?_iff_of_nodes hdeclared hnodes).1 hd
  have hkind : ((Sample.graphOf Sample.overloaded).declaration? "size").map Declaration.kind =
      some .property := by decide +kernel
  rw [hd] at hkind
  cases d <;> cases hkind
  rename_i q
  have hof : Preference.of? (.typeDecl holder) (.property q) = .ok (some p) := congrArg Except.ok hp
  have hvalid : p.validate (Sample.graphOf Sample.overloaded) = .ok .valid := by
    obtain ⟨verdict, hsome, hnone⟩ := Option.map_eq_some_iff.1 (beq_iff_eq.1 hverdict)
    cases verdict with
    | valid => exact eq_ok_of_toOption hsome
    | noConstructor => cases hnone
    | typeMismatch => cases hnone
  obtain ⟨t, -, hconverter, hdecided, -⟩ := hverdicts holder q p hholder (hid.symm ▸ hready) hmem
    (by rw [hid, ← hedges, show q.id = "size" from hsize]; exact htarget) hof
  exact ⟨Sample.read_overloaded, havoids, hnames, ds, es, q, p, t, hcontains, hconverter, hvalid,
    hdecided.valid.1 hvalid⟩

end Document

end KotlinPreferences
