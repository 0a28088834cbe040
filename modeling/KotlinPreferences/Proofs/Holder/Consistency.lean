import KotlinPreferences.Proofs.Document.Reading
import KotlinPreferences.Proofs.Preference.Verdicts

/-!
# Consistent holders are those that can be read

Whether a holder is consistent is asked before anything is read from it; what its preferences give is
read later, and in another way: the filter looks for texts, and the reading looks up whatever stands
there. On the graph of a document both come to the same, whatever values an annotation gives.

* `Preference.Readable`, `Property.Readable`: what is read later can be read;
* `WellFormed.knowsConverter_iff`: a converter is known if it can be looked up;
* `WellFormed.resolvesEntry_iff`: what an annotation gives resolves if it can be read;
* `Document.isConsistent_of_read`: so the consistent holders are told apart from the others in every
  accepted document.
-/

namespace KotlinPreferences

/-- The arguments of a preference can be read, and the key and the default among them are texts. -/
def Preference.Readable (g : SymbolGraph) (p : Preference) : Prop :=
  ∃ arguments, p.arguments g = .ok arguments ∧ arguments.key.isText = true ∧
    arguments.default.isText = true

/-- The type of a property has a name, and if the property is a preference of its holder, that can
be read. -/
def Property.Readable (g : SymbolGraph) (holder : TypeDecl) (q : Property) : Prop :=
  q.type.name ≠ "" ∧
    ∀ p, Preference.of? (.typeDecl holder) (.property q) = .ok (some p) → p.Readable g

namespace SymbolGraph

variable {g : SymbolGraph} {holder : TypeDecl} {p : Preference}

/-- A member is a text if it is there and is one; a missing member is none. -/
theorem isText_member_iff {members : Value.Members} {name : Text} :
    (Value.member members name).isText = true ↔
      ∃ v, Value.member? members name = some v ∧ v.isText = true := by
  rw [Value.member]
  cases Value.member? members name with
  | none => simp [Value.isText]
  | some v => simp

/-- Where all types have texts for names, nothing but a text leads to one of them. -/
theorem WellFormed.eq_str_of_typeNamed? (h : g.WellFormed)
    (hnames : ∀ t ∈ g.typeDecls, t.qualifiedName.isText = true) {key : Key} {d : Declaration}
    (hd : g.typeNamed? key = some d) : ∃ name, key = .str name := by
  rw [typeNamed?_eq_find? h.declared h.indexed, Option.map_eq_some_iff] at hd
  obtain ⟨t, ht, -⟩ := hd
  have hkey : t.qualifiedName.key? = some key := by simpa using List.find?_some ht
  obtain ⟨name, hname⟩ :=
    Value.isText_cases (hnames t (List.mem_reverse.1 (List.mem_of_find?_eq_some ht)))
  rw [hname, Value.key?_str, Option.some.injEq] at hkey
  exact ⟨name, hkey.symm⟩

/-- A converter is known if it can be looked up, whatever value names it. -/
theorem WellFormed.knowsConverter_iff (h : g.WellFormed)
    (hnames : ∀ t ∈ g.typeDecls, t.qualifiedName.isText = true) :
    g.knowsConverter (Preference.converterName p.entry) = true ↔ ∃ d, p.converter g = .ok d := by
  simp only [converter_eq_ok_iff]
  constructor
  · intro hknown
    unfold knowsConverter at hknown
    split at hknown
    · rename_i name hname
      obtain ⟨d, hd⟩ := Option.isSome_iff_exists.1 hknown
      exact ⟨d, .str name, by rw [hname, Value.key?_str], hd⟩
    · cases hknown
  · rintro ⟨d, key, hkey, hd⟩
    -- a number or null has a key as well, but no type goes by it
    obtain ⟨name, rfl⟩ := h.eq_str_of_typeNamed? hnames hd
    rw [Value.key?_eq_str_iff.1 hkey, knowsConverter, hd]
    rfl

/-- What an annotation gives resolves if it can be read. -/
theorem WellFormed.resolvesEntry_iff (h : g.WellFormed)
    (hnames : ∀ t ∈ g.typeDecls, t.qualifiedName.isText = true) :
    g.resolvesEntry p.entry = true ↔ p.Readable g := by
  simp only [resolvesEntry, Bool.and_eq_true, isText_member_iff, h.knowsConverter_iff hnames]
  constructor
  · rintro ⟨⟨⟨key, hkey, hkeyText⟩, ⟨default, hdefault, hdefaultText⟩⟩, ⟨d, hd⟩⟩
    exact ⟨⟨key, default, d⟩, arguments_eq_ok_iff.2 ⟨hd, hkey, hdefault⟩, hkeyText, hdefaultText⟩
  · rintro ⟨arguments, harguments, hkeyText, hdefaultText⟩
    obtain ⟨hd, hkey, hdefault⟩ := arguments_eq_ok_iff.1 harguments
    exact ⟨⟨⟨_, hkey, hkeyText⟩, ⟨_, hdefault, hdefaultText⟩⟩, ⟨_, hd⟩⟩

/-- A property resolves if everything that is read from it can be read. -/
theorem WellFormed.resolves_iff (h : g.WellFormed)
    (hnames : ∀ t ∈ g.typeDecls, t.qualifiedName.isText = true) (q : Property) :
    g.resolves (.property q) = .ok true ↔ q.Readable g holder := by
  simp only [resolves, Property.Readable, Preference.of?, Declaration.type?,
    Declaration.annotations?, orFail_some, ok_bind, pure_eq_ok, Except.ok.injEq]
  split_ifs with hname
  · simp [hname]
  · cases hentry : entryOf? q.annotations Vocabulary.preferenceMarker with
    | none => simp [hname]
    | some entry =>
      have hiff := h.resolvesEntry_iff hnames (p := ⟨.typeDecl holder, .property q, entry⟩)
      simp only [Except.ok.injEq, hiff, ne_eq, hname, not_false_eq_true, true_and, Option.map_some,
        Option.some.injEq, forall_eq']

end SymbolGraph

namespace Document

open SymbolGraph

variable {g : SymbolGraph} {v : Value}

/-- **A holder is consistent exactly when it can be read.** The filter always answers. It lets a type
pass if each of its properties has a type with a name, and the arguments of each preference among
them can be read, with texts for key and default; whatever values the annotation gives. -/
theorem isConsistent_of_read (h : read v = .ok g) (havoids : avoidsReserved v = true)
    (hnames : ∀ t ∈ g.typeDecls, t.qualifiedName.isText = true) :
    ∀ t ∈ g.typeDecls, ∃ properties ready, g.properties t.id = .ok properties ∧
      g.isConsistent t.id = .ok ready ∧
      (ready = true ↔ ∀ property ∈ properties, ∃ q, property = .property q ∧ q.Readable g t) := by
  intro t _
  have hwf := (read_wellFormed h havoids).1
  have hproperties := hwf.sound.properties_eq t.id
  obtain ⟨ready, hready⟩ := hwf.sound.isConsistent_total t.id
  refine ⟨_, ready, hproperties, hready, ?_⟩
  have hall : ready = true ↔
      ∀ property ∈ g.targetsOf t.id .hasProperty, g.resolves property = .ok true := by
    rw [← allM_eq_ok_true_iff, ← Except.ok.injEq (ε := Failure), ← hready, isConsistent, hproperties,
      ok_bind]
  rw [hall]
  constructor
  · intro hresolves property hproperty
    obtain ⟨q, rfl⟩ := hwf.sound.property_of_mem hproperty
    exact ⟨q, rfl, (hwf.resolves_iff hnames q).1 (hresolves _ hproperty)⟩
  · intro hreadable property hproperty
    obtain ⟨q, rfl, hq⟩ := hreadable property hproperty
    exact (hwf.resolves_iff hnames q).2 hq

end Document

namespace Sample

/-- A holder whose preference names no converter, with an empty list in that place, and one whose
preference has a list of a name there. -/
def listed : Value :=
  .obj
    [("nodes", .arr
      [node "empty" "TypeDecl" [("name", .str "Empty"), ("kind", .str "interface")],
        node "first" "Property" [("name", .str "first"), ("type", .str "kotlin.String"),
          ("annotations", preferenceMark [("key", .str "first"), ("default", .str ""),
            ("converter", .arr [])])],
        node "full" "TypeDecl" [("name", .str "Full"), ("kind", .str "interface")],
        node "second" "Property" [("name", .str "second"), ("type", .str "kotlin.String"),
          ("annotations", preferenceMark [("key", .str "second"), ("default", .str ""),
            ("converter", .arr [.str Vocabulary.stringConverter])])]]),
      ("edges", .arr
        [edge "empty" "first" "HAS_PROPERTY", edge "full" "second" "HAS_PROPERTY"])]

theorem read_listed : Document.read listed = .ok (graphOf listed) := read_graphOf (by decide +kernel)

end Sample

namespace Document

/-- The list of a name is no converter that could be looked up, and the empty one stands for the
converter of texts. -/
theorem isConsistent_listed : read Sample.listed = .ok (Sample.graphOf Sample.listed) ∧
    avoidsReserved Sample.listed = true ∧
    (∀ t ∈ (Sample.graphOf Sample.listed).typeDecls, t.qualifiedName.isText = true) ∧
    ∀ t ∈ (Sample.graphOf Sample.listed).typeDecls, ∃ properties,
      (Sample.graphOf Sample.listed).properties t.id = .ok properties ∧
      (t.id = "full" ↔ ¬ ∀ property ∈ properties, ∃ q, property = .property q ∧
        q.Readable (Sample.graphOf Sample.listed) t) := by
  have havoids : avoidsReserved Sample.listed = true := rfl
  have hnames : ((Sample.graphOf Sample.listed).typeDecls.all fun t =>
      t.qualifiedName.isText) = true := by decide +kernel
  have hready : ((Sample.graphOf Sample.listed).typeDecls.all fun t =>
      ((Sample.graphOf Sample.listed).isConsistent t.id).toOption == some (t.id != "full")) = true := by
    decide +kernel
  rw [List.all_eq_true] at hnames hready
  refine ⟨Sample.read_listed, havoids, hnames, fun t ht => ?_⟩
  obtain ⟨properties, ready, hproperties, hanswer, hiff⟩ :=
    isConsistent_of_read Sample.read_listed havoids hnames t ht
  refine ⟨properties, hproperties, ?_⟩
  have hthis := hready t ht
  rw [hanswer] at hthis
  have hfull : ready = (t.id != "full") := by simpa [Except.toOption] using hthis
  rw [← hiff, hfull]
  simp

end Document

end KotlinPreferences
