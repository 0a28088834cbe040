import KotlinPreferences.Holder.Consistency
import KotlinPreferences.Holder.Generation
import KotlinPreferences.Proofs.Steps
import KotlinPreferences.Proofs.SymbolGraph.WellFormed

/-!
# The preferences of a consistent holder

What is known about a preference whose holder is consistent. Nothing but its validation can fail:
once that returns, its variable can be written.

* `Holder.preferences`: the preferences among some properties;
* `resolves_cases`, `resolvesEntry_cases`: what consistency says about a property;
* `Sound.typeDecl_of_isConstructible`: a converter that was asked for its constructors is a type;
* `Holder.accessor_total`: a preference that was validated has a variable.
-/

namespace KotlinPreferences

variable {g : SymbolGraph} {d property : Declaration} {holder : TypeDecl} {p : Preference}

/-! ### Converters -/

namespace SymbolGraph

/-- A declaration with a function that is read as its own is a type. -/
theorem Sound.typeDecl_of_callables (h : g.Sound) (hd : g.declaration? d.id = some d)
    {fs : List Function} (hfs : g.callables d.id = .ok fs) {f : Function} (hf : f ∈ fs) :
    ∃ t, d = .typeDecl t := by
  rw [callables, bind_eq_ok_iff] at hfs
  obtain ⟨ds, hds, hfs⟩ := hfs
  obtain ⟨c, hc, -⟩ := exists_of_mem_mapM hfs hf
  obtain ⟨e, he, -⟩ := exists_of_mem_mapM hds hc
  simp only [edgesFrom, List.mem_filter, mem_grouped, decide_eq_true_eq] at he
  obtain ⟨⟨hmem, hsource⟩, hkind⟩ := he
  obtain ⟨s, t, hs, -, hends⟩ := h.fitting e hmem (by rw [hkind]; rfl)
  rw [hsource, hd, Option.some.injEq] at hs
  rw [hkind, EdgeKind.ends?, Option.some.injEq, Prod.mk.injEq] at hends
  subst hs
  cases d with
  | typeDecl t => exact ⟨t, rfl⟩
  | property p => cases hends.1
  | function f => cases hends.1
  | parameter p => cases hends.1

/-- A converter that was asked for its constructors is a type: it either has one, or it was asked
for the kind of type that it is. -/
theorem Sound.typeDecl_of_isConstructible (h : g.Sound) (hd : g.declaration? d.id = some d)
    {b : Bool} (hb : g.isConstructible d = .ok b) : ∃ t, d = .typeDecl t := by
  simp only [isConstructible, constructors, bind_eq_ok_iff, pure_eq_ok] at hb
  obtain ⟨cs, ⟨fs, hfs, hcs⟩, hb⟩ := hb
  cases hcs
  split at hb
  · -- without constructors its kind was looked at, which only a type has
    simp only [bind_eq_ok_iff, orFail_eq_ok_iff] at hb
    obtain ⟨kind, hkind, -⟩ := hb
    cases d with
    | typeDecl t => exact ⟨t, rfl⟩
    | property p => cases hkind
    | function f => cases hkind
    | parameter p => cases hkind
  · -- a constructor is a function of its own
    rename_i hne
    rw [List.isEmpty_iff] at hne
    obtain ⟨f, hf⟩ := List.exists_mem_of_ne_nil _ hne
    exact h.typeDecl_of_callables hd hfs (List.mem_filter.1 hf).1

/-! ### What consistency says -/

/-- A member that is a text is there. -/
theorem member?_of_isText {members : Value.Members} {name : Text}
    (h : (Value.member members name).isText = true) :
    ∃ s, Value.member? members name = some (.str s) := by
  obtain ⟨s, hs⟩ := Value.isText_cases h
  cases hm : Value.member? members name with
  | none => simp [Value.member, hm] at hs
  | some v => exact ⟨s, by simpa [Value.member, hm] using hs⟩

/-- The annotation of a consistent preference gives texts for the key and the default, and names a
converter that is known. -/
theorem resolvesEntry_cases {entry : AnnotationEntry} (h : g.resolvesEntry entry = true) :
    ∃ key default name d, Value.member? entry.arguments "key" = some (.str key) ∧
      Value.member? entry.arguments "default" = some (.str default) ∧
      Preference.converterName entry = .str name ∧ g.typeNamed? (.str name) = some d := by
  simp only [resolvesEntry, Bool.and_eq_true] at h
  obtain ⟨⟨hkey, hdefault⟩, hconverter⟩ := h
  obtain ⟨key, hkey⟩ := member?_of_isText hkey
  obtain ⟨default, hdefault⟩ := member?_of_isText hdefault
  unfold knowsConverter at hconverter
  split at hconverter
  · rename_i name hname
    obtain ⟨d, hd⟩ := Option.isSome_iff_exists.1 hconverter
    exact ⟨key, default, name, d, hkey, hdefault, hname, hd⟩
  · cases hconverter

/-- What resolves is a property, and its annotation does, if it has one. -/
theorem resolves_cases (h : g.resolves property = .ok true) : ∃ q, property = .property q ∧
    ∀ entry, entryOf? q.annotations Vocabulary.preferenceMarker = some entry →
      g.resolvesEntry entry = true := by
  rw [resolves, bind_eq_ok_iff] at h
  obtain ⟨type, htype, h⟩ := h
  split at h
  · cases h
  · rw [bind_eq_ok_iff] at h
    obtain ⟨entries, hentries, h⟩ := h
    cases property with
    | typeDecl t => cases htype
    | property q =>
      cases hentries
      refine ⟨q, rfl, fun entry hentry => ?_⟩
      rw [hentry] at h
      simpa using h
    | function f => cases htype
    | parameter q => cases hentries

/-- The type of a property that resolves has a name. -/
theorem name_ne_empty_of_resolves {q : Property} (h : g.resolves (.property q) = .ok true) :
    q.type.name ≠ "" := by
  rw [resolves, bind_eq_ok_iff] at h
  obtain ⟨type, htype, h⟩ := h
  cases htype
  split_ifs at h with hname
  · cases h
  · exact hname

end SymbolGraph

/-! ### The preferences of a holder -/

namespace Holder

/-- A property as a preference of its holder, if it carries the annotation. -/
def preferenceOf? (holder : TypeDecl) (property : Declaration) : Option Preference :=
  property.annotations?.bind fun entries =>
    (entryOf? entries Vocabulary.preferenceMarker).map fun entry =>
      ⟨.typeDecl holder, property, entry⟩

/-- The preferences among some properties of a holder, in order. -/
def preferences (holder : TypeDecl) (properties : List Declaration) : List Preference :=
  properties.filterMap (preferenceOf? holder)

/-- A preference of a consistent holder: it is made from a property, and its annotation resolves. -/
structure Resolved (g : SymbolGraph) (holder : TypeDecl) (p : Preference) : Prop where
  holder_eq : p.holder = .typeDecl holder
  isProperty : ∃ q, p.property = .property q
  entry : g.resolvesEntry p.entry = true

theorem of?_eq_preferenceOf? (h : g.resolves property = .ok true) (holder : TypeDecl) :
    Preference.of? (.typeDecl holder) property = .ok (preferenceOf? holder property) := by
  obtain ⟨q, rfl, -⟩ := SymbolGraph.resolves_cases h
  rfl

theorem resolved_of_preferenceOf? (h : g.resolves property = .ok true)
    (hp : preferenceOf? holder property = some p) : Resolved g holder p := by
  obtain ⟨q, rfl, hentry⟩ := SymbolGraph.resolves_cases h
  obtain ⟨entry, he, rfl⟩ := Option.map_eq_some_iff.1 hp
  exact ⟨rfl, ⟨q, rfl⟩, hentry entry he⟩

/-- The preferences among properties that resolve do. -/
theorem resolved_of_mem {properties : List Declaration}
    (hresolves : ∀ property ∈ properties, g.resolves property = .ok true)
    (hp : p ∈ preferences holder properties) : Resolved g holder p := by
  obtain ⟨property, hproperty, hof⟩ := List.mem_filterMap.1 hp
  exact resolved_of_preferenceOf? (hresolves property hproperty) hof

theorem Resolved.qualifiedName (h : Resolved g holder p) :
    p.qualifiedName = .ok (holder.qualifiedName.text ++ "." ++ p.name) := by
  rw [Preference.qualifiedName, h.holder_eq]
  rfl

/-- A preference of a consistent holder has its arguments: texts for key and default, and a
converter under its own id. -/
theorem Resolved.arguments (h : Resolved g holder p) (hdecl : g.Declared) :
    ∃ key default d, p.arguments g = .ok ⟨.str key, .str default, d⟩ ∧
      g.declaration? d.id = some d := by
  obtain ⟨key, default, name, d, hkey, hdefault, hname, hd⟩ := SymbolGraph.resolvesEntry_cases h.entry
  refine ⟨key, default, d, ?_, SymbolGraph.declaration?_of_typeNamed? hdecl hd⟩
  simp [Preference.arguments, Preference.converter, SymbolGraph.typeOf, hname, hd, hkey, hdefault]

/-- The variable of a preference has the name of the property and the text of its type. -/
theorem exists_of_accessor {options : Options} {text : Text}
    (h : accessor g options p = .ok text) : ∃ a : Kotlin.Accessor, a.name = p.name ∧
      p.typeName = .ok a.declaredType ∧ a.render? options.escapeLiterals.truthy = some text := by
  simp only [accessor, bind_eq_ok_iff, orFail_eq_ok_iff] at h
  obtain ⟨_, -, declaredType, htype, _, -, hrender⟩ := h
  exact ⟨_, rfl, htype, hrender⟩

/-- A preference that was validated has a variable. -/
theorem accessor_total (h : Resolved g holder p) (hsound : g.Sound) {verdict : Verdict}
    (hverdict : p.validate g = .ok verdict) (options : Options) :
    ∃ text, accessor g options p = .ok text := by
  obtain ⟨key, default, d, harguments, hd⟩ := h.arguments hsound.declared
  -- the validation has asked the converter for its constructors
  rw [Preference.validate, harguments, ok_bind, bind_eq_ok_iff] at hverdict
  obtain ⟨b, hb, -⟩ := hverdict
  obtain ⟨t, rfl⟩ := hsound.typeDecl_of_isConstructible hd hb
  obtain ⟨q, hq⟩ := h.isProperty
  have htype : p.typeName = .ok q.type.render := by
    rw [Preference.typeName, Preference.type, hq]
    rfl
  rw [accessor, harguments, ok_bind, htype, ok_bind]
  simp only [Declaration.qualifiedName?, orFail_some, ok_bind]
  -- the literals are texts, so they are there escaped or as they are
  cases options.escapeLiterals.truthy with
  | false => exact ⟨_, by simp [Kotlin.Accessor.render?, Kotlin.literal?]; rfl⟩
  | true => exact ⟨_, by simp [Kotlin.Accessor.render?, Kotlin.literal?]; rfl⟩

end Holder

end KotlinPreferences
