import KotlinPreferences.Proofs.Holder.Preferences
import KotlinPreferences.Proofs.SymbolGraph.Assignability
import KotlinPreferences.Proofs.SymbolGraph.Members

/-!
# What is found about a preference

The verdict on a preference of a consistent holder, said by the declarations of its converter. In
order: the converter has to be constructible, to declare a function that reads texts, and to read
values of the declared type. Where there is nothing to read with, the validation fails.

* `Constructible`, `Sound.isConstructible_eq`: the types that can be constructed without arguments;
* `reader?`, `Sound.valueType_eq`: the function with which a converter reads texts;
* `Serves`, `WellFormed.validate_eq_valid_iff`: what it takes for a preference to be valid;
* `Finding`, `finding_of_arguments`, `Resolved.finding`: what the validation comes to;
* `Finding.noConstructor_iff`, `Finding.fails_iff`, `Finding.valid_iff`, `Finding.mismatch_iff`: when
  it comes to what;
* `ReadsNothing`, `HasUnreadable`: the converters and the holders at which it fails;
* `Holder.Unreadable`, `Resolved.unreadable_of_validate`, `Resolved.validate_error_cases`: the
  failures with which it does;
* `Holder.hasUnreadable_iff`: such a holder by its preferences.
-/

namespace KotlinPreferences

namespace SymbolGraph

variable {g : SymbolGraph} {t : TypeDecl} {p : Preference}

/-- A type can be constructed without arguments: it declares a constructor without parameters, or it
is a class that declares no constructor at all. -/
def Constructible (g : SymbolGraph) (t : TypeDecl) : Prop :=
  (∃ f ∈ g.functionsOf t.id, f.isConstructor = true ∧
      ∀ e ∈ g.edges, e.kind = .paramOf → e.target ≠ f.id) ∨
    (∀ f ∈ g.functionsOf t.id, f.isConstructor = false) ∧ t.kind = .classType

/-- In a sound graph it can be told whether a type can be constructed. -/
theorem Sound.isConstructible_eq (h : g.Sound) (t : TypeDecl) :
    ∃ answer, g.isConstructible (.typeDecl t) = .ok answer ∧
      (answer = true ↔ g.Constructible t) := by
  have hparameters : ∀ f ∈ (g.functionsOf t.id).filter Function.isConstructor,
      (do let ps ← g.parameters f.id; pure ps.isEmpty : Except Failure Bool) =
        .ok (g.sourcesOf f.id .paramOf).isEmpty := fun f _ => by
    rw [parameters, h.sources_eq rfl, ok_bind, pure_eq_ok]
  simp only [isConstructible, constructors, Declaration.id, h.callables_eq, ok_bind, pure_eq_ok,
    Declaration.typeKind?, orFail_some]
  split_ifs with hnone
  · -- no constructor is declared
    rw [List.isEmpty_iff, List.filter_eq_nil_iff] at hnone
    have hnone : ∀ f ∈ g.functionsOf t.id, f.isConstructor = false := by simpa using hnone
    refine ⟨_, rfl, ?_⟩
    rw [beq_iff_eq]
    constructor
    · intro hclass
      exact .inr ⟨hnone, hclass⟩
    · rintro (⟨f, hf, hconstructor, -⟩ | ⟨-, hclass⟩)
      · rw [hnone f hf] at hconstructor
        cases hconstructor
      · exact hclass
  · rw [List.isEmpty_iff, List.filter_eq_nil_iff] at hnone
    refine ⟨_, anyM_eq_any hparameters, ?_⟩
    have hplain : ∀ f : Function, g.sourcesOf f.id .paramOf = [] ↔
        ∀ e ∈ g.edges, e.kind = .paramOf → e.target ≠ f.id := fun f =>
      h.sourcesOf_eq_nil_iff (show EdgeKind.paramOf.isSupertype = false from rfl)
    simp only [List.any_eq_true, List.mem_filter, List.isEmpty_iff, hplain]
    constructor
    · rintro ⟨f, ⟨hf, hconstructor⟩, hplain⟩
      exact .inl ⟨f, hf, hconstructor, hplain⟩
    · rintro (⟨f, hf, hconstructor, hplain⟩ | ⟨hall, -⟩)
      · exact ⟨f, ⟨hf, hconstructor⟩, hplain⟩
      · exact absurd (fun f hf => by simp [hall f hf]) hnone

/-- Whatever declares it, it can be told whether a converter can be constructed, or it has no kind of
type to be asked for. -/
theorem Sound.isConstructible_cases (h : g.Sound) (d : Declaration) :
    (∃ answer, g.isConstructible d = .ok answer) ∨ g.isConstructible d = .error .wrongShape := by
  simp only [isConstructible, constructors, h.callables_eq, ok_bind, pure_eq_ok]
  split_ifs
  · cases d.typeKind? with
    | none => exact .inr rfl
    | some kind => exact .inl ⟨_, rfl⟩
  · refine .inl ⟨_, anyM_eq_any (q := fun f => (g.sourcesOf f.id .paramOf).isEmpty) fun f _ => ?_⟩
    rw [parameters, h.sources_eq rfl, ok_bind]

/-- The function to which an edge leads. -/
def functionAt? (g : SymbolGraph) (e : Edge) : Option Function :=
  (g.declaration? e.target).bind Declaration.function?

/-- The function with which a converter reads texts: the first one named `parse`, constructors
apart. -/
def reader? (g : SymbolGraph) (t : TypeDecl) : Option Function :=
  (g.functionsOf t.id).find? fun f => !f.isConstructor && f.name == ("parse" : Text)

/-- The first of these functions is that of the first edge to one, although the functions are read in
groups. -/
theorem WellFormed.reader?_eq (h : g.WellFormed) (t : TypeDecl) :
    g.reader? t = (g.edges.find? fun e => decide (e.source = t.id ∧ e.kind = .hasFunction) &&
      (g.functionAt? e).any fun f => !f.isConstructor && f.name == ("parse" : Text)).bind g.functionAt? := by
  have hfunctions : g.functionsOf t.id = (grouped Edge.target (g.edges.filter fun e =>
      e.source = t.id ∧ e.kind = .hasFunction)).filterMap g.functionAt? := by
    rw [functionsOf, targetsOf, h.edgesFrom_filter rfl, List.filterMap_filterMap]
    rfl
  rw [reader?, hfunctions, List.find?_filterMap, find?_grouped fun a _ b _ htarget => by
    rw [functionAt?, functionAt?, htarget], List.find?_filter]
  simp only [Bool.decide_and, Bool.decide_eq_true]

theorem Sound.functionNamed_parse (h : g.Sound) (t : TypeDecl) :
    g.functionNamed (.typeDecl t) "parse" =
      orFail (g.reader? t) (.absentFunction t.qualifiedName "parse") := by
  have hfind : ((g.functionsOf t.id).filter fun f => !f.isConstructor).find?
      (fun f => f.name == ("parse" : Text)) = g.reader? t := by
    rw [List.find?_filter, reader?]
    congr 1
    funext f
    cases f.isConstructor with
    | false => simp [beq_eq_decide]
    | true => simp
  simp only [functionNamed, functions, Declaration.id, h.callables_eq, ok_bind, pure_eq_ok, hfind]
  cases g.reader? t <;> rfl

/-- The type that a converter reads is the return type of that function; without either the reading
fails. -/
theorem Sound.valueType_eq (h : g.Sound) (t : TypeDecl) :
    g.valueType (.typeDecl t) =
      orFail (g.reader? t) (.absentFunction t.qualifiedName "parse") >>= fun f =>
        orFail f.returnType (.absentReturnType t.qualifiedName) := by
  rw [valueType, h.functionNamed_parse]
  congr 1
  funext f
  cases f.returnType <;> rfl

/-- A converter that can be constructed, but has no function to read texts with, or one without a
return type. -/
structure ReadsNothing (g : SymbolGraph) (t : TypeDecl) : Prop where
  constructible : g.Constructible t
  reader : ∀ f, g.reader? t = some f → f.returnType = none

/-- A property of a holder has the preference annotation, and a converter that reads nothing. -/
def HasUnreadable (g : SymbolGraph) (holder : TypeDecl) : Prop :=
  ∃ e ∈ g.edges, e.source = holder.id ∧ e.kind = .hasProperty ∧
    ∃ q entry t, g.declaration? e.target = some (.property q) ∧
      entryOf? q.annotations Vocabulary.preferenceMarker = some entry ∧
      g.typeOf (Preference.converterName entry) = .ok (some (.typeDecl t)) ∧ g.ReadsNothing t

/-- It can always be told whether a holder is consistent. -/
theorem Sound.isConsistent_total (h : g.Sound) (id : Text) :
    ∃ ready, g.isConsistent id = .ok ready := by
  rw [isConsistent, h.properties_eq, ok_bind]
  refine allM_total fun d hd => ?_
  obtain ⟨q, rfl⟩ := h.property_of_mem hd
  simp only [resolves, Declaration.type?, Declaration.annotations?, orFail_some, ok_bind]
  split_ifs
  · exact ⟨false, rfl⟩
  · cases entryOf? q.annotations Vocabulary.preferenceMarker with
    | none => exact ⟨true, rfl⟩
    | some entry => exact ⟨_, rfl⟩

/-! ### Valid preferences -/

/-- The converter of a preference is what the name leads to that the annotation gives. -/
theorem converter_eq_ok_iff {d : Declaration} : p.converter g = .ok d ↔
    ∃ key, (Preference.converterName p.entry).key? = some key ∧ g.typeNamed? key = some d := by
  rw [Preference.converter, typeOf]
  cases (Preference.converterName p.entry).key? with
  | none => simp
  | some key =>
    cases hd : g.typeNamed? key with
    | none => simp [hd, bind_eq_ok_iff]
    | some d' => simp [hd]

theorem arguments_eq_ok_iff {arguments : Preference.Arguments} : p.arguments g = .ok arguments ↔
    p.converter g = .ok arguments.converter ∧
      Value.member? p.entry.arguments "key" = some arguments.key ∧
      Value.member? p.entry.arguments "default" = some arguments.default := by
  simp only [Preference.arguments, bind_eq_ok_iff, orFail_eq_ok_iff, pure_eq_ok, Except.ok.injEq]
  constructor
  · rintro ⟨converter, hconverter, key, hkey, default, hdefault, rfl⟩
    exact ⟨hconverter, hkey, hdefault⟩
  · rintro ⟨hconverter, hkey, hdefault⟩
    exact ⟨_, hconverter, _, hkey, _, hdefault, rfl⟩

/-- In a well-formed graph the converter of a preference is a type. -/
theorem WellFormed.exists_of_converter (h : g.WellFormed) {d : Declaration}
    (hd : p.converter g = .ok d) : ∃ t, d = .typeDecl t := by
  obtain ⟨key, -, hd⟩ := converter_eq_ok_iff.1 hd
  rw [typeNamed?_eq_find? h.declared h.indexed, Option.map_eq_some_iff] at hd
  obtain ⟨t, -, rfl⟩ := hd
  exact ⟨t, rfl⟩

/-- A converter serves a preference: the annotation names it, it can be constructed, and what it reads
is assignable to the declared type. -/
structure Serves (g : SymbolGraph) (t : TypeDecl) (p : Preference) : Prop where
  arguments : ∃ key default, p.arguments g = .ok ⟨key, default, .typeDecl t⟩
  constructible : g.Constructible t
  reads : ∃ declared f given, p.type = .ok declared ∧ g.reader? t = some f ∧
    f.returnType = some given ∧ g.Assignable declared given

/-- A preference is valid if there is a converter that serves it. -/
theorem WellFormed.validate_eq_valid_iff (h : g.WellFormed) (hkeyed : g.Keyed) :
    p.validate g = .ok .valid ↔ ∃ t, g.Serves t p := by
  constructor
  · intro hvalid
    obtain ⟨⟨key, default, converter⟩, harguments, hvalid⟩ := bind_eq_ok_iff.1 hvalid
    obtain ⟨t, rfl⟩ := h.exists_of_converter (arguments_eq_ok_iff.1 harguments).1
    obtain ⟨constructible, hanswer, hconstructible⟩ := h.sound.isConstructible_eq t
    simp only [hanswer, ok_bind] at hvalid
    cases constructible with
    | false => cases hvalid
    | true =>
      simp only [if_true, h.sound.valueType_eq, bind_eq_ok_iff, orFail_eq_ok_iff] at hvalid
      obtain ⟨declared, htype, given, ⟨f, hreader, hreturn⟩, fits, hfits, hvalid⟩ := hvalid
      obtain ⟨answer, hanswer, hassignable⟩ := h.isAssignable_of_keyed hkeyed declared given
      rw [hanswer, Except.ok.injEq] at hfits
      cases fits with
      | false => simp [bind_eq_ok_iff] at hvalid
      | true =>
        exact ⟨t, ⟨key, default, harguments⟩, hconstructible.1 rfl, declared, f, given, htype, hreader,
          hreturn, hassignable.1 hfits⟩
  · rintro ⟨t, ⟨key, default, harguments⟩, hconstructible, declared, f, given, htype, hreader, hreturn,
      hfits⟩
    obtain ⟨constructible, hanswer, hiff⟩ := h.sound.isConstructible_eq t
    obtain ⟨answer, hanswer', hassignable⟩ := h.isAssignable_of_keyed hkeyed declared given
    rw [hiff.2 hconstructible] at hanswer
    rw [hassignable.2 hfits] at hanswer'
    simp [Preference.validate, harguments, hanswer, htype, h.sound.valueType_eq, hreader, hreturn,
      hanswer']

end SymbolGraph

namespace Holder

open SymbolGraph

variable {g : SymbolGraph} {holder t : TypeDecl} {p : Preference} {declared : TypeRef}
  {name : Text} {result : Except Failure Verdict}

/-- What the validation of a preference comes to, by its declared type and its converter. -/
inductive Finding (g : SymbolGraph) (holder : TypeDecl) (name : Text) (declared : TypeRef)
    (t : TypeDecl) : Except Failure Verdict → Prop
  /-- The converter cannot be constructed; nothing else is looked at. -/
  | noConstructor (hnot : ¬ g.Constructible t) :
      Finding g holder name declared t (.ok (.noConstructor t.qualifiedName))
  /-- The converter has no function to read texts with. -/
  | noReader (hconstructible : g.Constructible t) (hreader : g.reader? t = none) :
      Finding g holder name declared t (.error (.absentFunction t.qualifiedName "parse"))
  /-- That function has no return type. -/
  | noReturnType (hconstructible : g.Constructible t) {f : Function} (hreader : g.reader? t = some f)
      (hreturn : f.returnType = none) :
      Finding g holder name declared t (.error (.absentReturnType t.qualifiedName))
  /-- What the converter reads may stand for a value of the declared type. -/
  | valid (hconstructible : g.Constructible t) {f : Function} (hreader : g.reader? t = some f)
      {given : TypeRef} (hreturn : f.returnType = some given) (hfits : g.Assignable declared given) :
      Finding g holder name declared t (.ok .valid)
  /-- It may not. -/
  | mismatch (hconstructible : g.Constructible t) {f : Function} (hreader : g.reader? t = some f)
      {given : TypeRef} (hreturn : f.returnType = some given)
      (hfits : ¬ g.Assignable declared given) :
      Finding g holder name declared t
        (.ok (.typeMismatch (holder.qualifiedName.text ++ "." ++ name)))

/-- A validation that fails finds no function to read texts with, or no return type. -/
theorem Finding.readsNothing {failure : Failure}
    (h : Finding g holder name declared t (.error failure)) :
    failure.family = .badLookup ∧ g.ReadsNothing t := by
  cases h with
  | noReader hconstructible hreader => exact ⟨rfl, hconstructible, by simp [hreader]⟩
  | noReturnType hconstructible hreader hreturn =>
    refine ⟨rfl, hconstructible, fun f hf => ?_⟩
    rw [hreader, Option.some.injEq] at hf
    rw [← hf, hreturn]

/-- A validation that returns has found both, or has not looked for them. -/
theorem Finding.not_readsNothing {verdict : Verdict}
    (h : Finding g holder name declared t (.ok verdict)) : ¬ g.ReadsNothing t := by
  rintro ⟨hconstructible, hnone⟩
  cases h with
  | noConstructor hnot => exact hnot hconstructible
  | valid _ hreader hreturn =>
    rw [hnone _ hreader] at hreturn
    cases hreturn
  | mismatch _ hreader hreturn =>
    rw [hnone _ hreader] at hreturn
    cases hreturn

/-- The validation ends at the constructors exactly where none can be called without arguments. -/
theorem Finding.noConstructor_iff (h : Finding g holder name declared t result) :
    result = .ok (.noConstructor t.qualifiedName) ↔ ¬ g.Constructible t := by
  cases h with
  | noConstructor hnot => exact iff_of_true rfl hnot
  | noReader hconstructible _ => simp [hconstructible]
  | noReturnType hconstructible _ _ => simp [hconstructible]
  | valid hconstructible _ _ _ => simp [hconstructible]
  | mismatch hconstructible _ _ _ => simp [hconstructible]

/-- A lookup fails in it exactly where there is nothing to read with. -/
theorem Finding.fails_iff (h : Finding g holder name declared t result) :
    (∃ failure, result = .error failure ∧ failure.family = .badLookup) ↔ g.ReadsNothing t := by
  cases result with
  | error failure => exact iff_of_true ⟨failure, rfl, h.readsNothing.1⟩ h.readsNothing.2
  | ok verdict => exact iff_of_false (by simp) h.not_readsNothing

theorem Finding.valid_iff (h : Finding g holder name declared t result) :
    result = .ok .valid ↔ g.Constructible t ∧ ∃ f given, g.reader? t = some f ∧
      f.returnType = some given ∧ g.Assignable declared given := by
  cases h with
  | noConstructor hnot => simp [hnot]
  | noReader _ hreader => simp [hreader]
  | noReturnType _ hreader hreturn => simp [hreader, hreturn]
  | valid hconstructible hreader hreturn hfits => simp [hconstructible, hreader, hreturn, hfits]
  | mismatch _ hreader hreturn hfits => simp [hreader, hreturn, hfits]

theorem Finding.mismatch_iff (h : Finding g holder name declared t result) :
    result = .ok (.typeMismatch (holder.qualifiedName.text ++ "." ++ name)) ↔
      g.Constructible t ∧ ∃ f given, g.reader? t = some f ∧ f.returnType = some given ∧
        ¬ g.Assignable declared given := by
  cases h with
  | noConstructor hnot => simp [hnot]
  | noReader _ hreader => simp [hreader]
  | noReturnType _ hreader hreturn => simp [hreader, hreturn]
  | valid _ hreader hreturn hfits => simp [hreader, hreturn, hfits]
  | mismatch hconstructible hreader hreturn hfits => simp [hconstructible, hreader, hreturn, hfits]

/-- The annotation of a consistent preference gives texts for key and default, and names a type. -/
theorem Resolved.typeNamed (h : Resolved g holder p) (hwf : g.WellFormed) :
    ∃ key default t, p.arguments g = .ok ⟨.str key, .str default, .typeDecl t⟩ ∧
      g.typeOf (Preference.converterName p.entry) = .ok (some (.typeDecl t)) := by
  obtain ⟨key, default, name, d, hkey, hdefault, hname, hd⟩ := resolvesEntry_cases h.entry
  obtain ⟨t, -, rfl, -⟩ := hwf.exists_of_typeNamed? hd
  have htype : g.typeOf (Preference.converterName p.entry) = .ok (some (.typeDecl t)) := by
    rw [hname, ← hd]
    rfl
  refine ⟨key, default, t, ?_, htype⟩
  simp [Preference.arguments, Preference.converter, htype, hkey, hdefault]

/-- Once the arguments of a preference are known, its validation comes to what the converter says. -/
theorem finding_of_arguments (hwf : g.WellFormed) (hkeyed : g.Keyed) {q : Property}
    (hq : p.property = .property q)
    (hname : p.qualifiedName = .ok (holder.qualifiedName.text ++ "." ++ p.name)) {key default : Value}
    (harguments : p.arguments g = .ok ⟨key, default, .typeDecl t⟩) :
    Finding g holder p.name q.type t (p.validate g) := by
  obtain ⟨constructible, hanswer, hiff⟩ := hwf.sound.isConstructible_eq t
  rw [Preference.validate, harguments, ok_bind]
  simp only [hanswer, ok_bind]
  cases constructible with
  | false => exact .noConstructor fun hc => Bool.false_ne_true (hiff.2 hc)
  | true =>
    have hconstructible := hiff.1 rfl
    have hdeclared : p.type = .ok q.type := by rw [Preference.type, hq]; rfl
    simp only [if_true, hdeclared, ok_bind, hwf.sound.valueType_eq]
    cases hreader : g.reader? t with
    | none =>
      simp only [orFail_none, error_bind]
      exact .noReader hconstructible hreader
    | some f =>
      cases hreturn : f.returnType with
      | none =>
        simp only [orFail_some, ok_bind, hreturn, orFail_none, error_bind]
        exact .noReturnType hconstructible hreader hreturn
      | some given =>
        obtain ⟨fits, hfits, hassignable⟩ := hwf.isAssignable_of_keyed hkeyed q.type given
        simp only [hreturn, orFail_some, ok_bind, hfits]
        cases fits with
        | true => exact .valid hconstructible hreader hreturn (hassignable.1 rfl)
        | false =>
          simp only [Bool.false_eq_true, if_false, hname, ok_bind]
          exact .mismatch hconstructible hreader hreturn fun ha => Bool.false_ne_true (hassignable.2 ha)

/-- The validation of a preference of a consistent holder comes to what its converter says. -/
theorem Resolved.finding (h : Resolved g holder p) (hwf : g.WellFormed) (hkeyed : g.Keyed) :
    ∃ q t, p.property = .property q ∧
      g.typeOf (Preference.converterName p.entry) = .ok (some (.typeDecl t)) ∧
      Finding g holder p.name q.type t (p.validate g) := by
  obtain ⟨q, hq⟩ := h.isProperty
  obtain ⟨key, default, t, harguments, htype⟩ := h.typeNamed hwf
  exact ⟨q, t, hq, htype, finding_of_arguments hwf hkeyed hq h.qualifiedName harguments⟩

/-- The failed lookup in a converter that declares no function to read texts with, or one without a
return type. -/
inductive Unreadable : Failure → Prop
  | absentFunction (converter : Value) : Unreadable (.absentFunction converter "parse")
  | absentReturnType (converter : Value) : Unreadable (.absentReturnType converter)

/-- Where names lead to types, a validation fails with nothing but such a lookup. -/
theorem Resolved.unreadable_of_validate (h : Resolved g holder p) (hwf : g.WellFormed)
    (hkeyed : g.Keyed) {failure : Failure} (hfails : p.validate g = .error failure) :
    Unreadable failure := by
  obtain ⟨q, t, -, -, hfinding⟩ := h.finding hwf hkeyed
  rw [hfails] at hfinding
  cases hfinding with
  | noReader => exact .absentFunction _
  | noReturnType => exact .absentReturnType _

/-- In the graph of any document, a validation may also come across what is no type. -/
theorem Resolved.validate_error_cases (h : Resolved g holder p) (hsound : g.Sound)
    (hclosed : g.Closed) (hkeyed : g.Keyed) {failure : Failure}
    (hfails : p.validate g = .error failure) : Unreadable failure ∨ failure = .wrongShape := by
  obtain ⟨key, default, d, harguments, hd⟩ := h.arguments hsound.declared
  rw [Preference.validate, harguments, ok_bind] at hfails
  rcases hsound.isConstructible_cases d with ⟨constructible, hanswer⟩ | hwrong
  · -- a converter that was asked for its constructors is a type
    obtain ⟨t, rfl⟩ := hsound.typeDecl_of_isConstructible hd hanswer
    obtain ⟨q, hq⟩ := h.isProperty
    have hdeclared : p.type = .ok q.type := by rw [Preference.type, hq]; rfl
    simp only [hanswer, ok_bind] at hfails
    cases constructible with
    | false => cases hfails
    | true =>
      simp only [if_true, hdeclared, ok_bind, hsound.valueType_eq] at hfails
      cases hreader : g.reader? t with
      | none =>
        simp only [hreader, orFail_none, error_bind, Except.error.injEq] at hfails
        exact .inl (hfails ▸ .absentFunction _)
      | some f =>
        cases hreturn : f.returnType with
        | none =>
          simp only [hreader, orFail_some, ok_bind, hreturn, orFail_none, error_bind,
            Except.error.injEq] at hfails
          exact .inl (hfails ▸ .absentReturnType _)
        | some given =>
          simp only [hreader, orFail_some, ok_bind, hreturn] at hfails
          rcases hsound.declared.isAssignable_cases hclosed hkeyed q.type given with
            ⟨fits, hfits⟩ | hwrong
          · simp only [hfits, ok_bind, h.qualifiedName] at hfails
            cases fits <;> cases hfails
          · simp only [hwrong, error_bind, Except.error.injEq] at hfails
            exact .inr hfails.symm
  · simp only [hwrong, error_bind, Except.error.injEq] at hfails
    exact .inr hfails.symm

/-- The preferences of a holder are its properties with the annotation. -/
theorem mem_preferences_iff (h : g.Sound) :
    p ∈ preferences holder (g.targetsOf holder.id .hasProperty) ↔
      ∃ e ∈ g.edges, e.source = holder.id ∧ e.kind = .hasProperty ∧
        ∃ q entry, g.declaration? e.target = some (.property q) ∧
          entryOf? q.annotations Vocabulary.preferenceMarker = some entry ∧
          p = ⟨.typeDecl holder, .property q, entry⟩ := by
  rw [preferences, List.mem_filterMap]
  constructor
  · rintro ⟨d, hd, hof⟩
    obtain ⟨q, rfl⟩ := h.property_of_mem hd
    obtain ⟨e, he, hsource, hkind, htarget⟩ := mem_targetsOf_iff.1 hd
    obtain ⟨entry, hentry, hp⟩ := Option.map_eq_some_iff.1 hof
    exact ⟨e, he, hsource, hkind, q, entry, htarget, hentry, hp.symm⟩
  · rintro ⟨e, he, hsource, hkind, q, entry, htarget, hentry, rfl⟩
    exact ⟨.property q, mem_targetsOf_iff.2 ⟨e, he, hsource, hkind, htarget⟩,
      Option.map_eq_some_iff.2 ⟨entry, hentry, rfl⟩⟩

/-- A holder has an unreadable property exactly when one of its preferences has a converter that
reads nothing. -/
theorem hasUnreadable_iff (h : g.Sound) : g.HasUnreadable holder ↔
    ∃ p ∈ preferences holder (g.targetsOf holder.id .hasProperty),
      ∃ t, g.typeOf (Preference.converterName p.entry) = .ok (some (.typeDecl t)) ∧
        g.ReadsNothing t := by
  constructor
  · rintro ⟨e, he, hsource, hkind, q, entry, t, htarget, hentry, htype, hreads⟩
    exact ⟨_, (mem_preferences_iff h).2 ⟨e, he, hsource, hkind, q, entry, htarget, hentry, rfl⟩,
      t, htype, hreads⟩
  · rintro ⟨p, hp, t, htype, hreads⟩
    obtain ⟨e, he, hsource, hkind, q, entry, htarget, hentry, rfl⟩ := (mem_preferences_iff h).1 hp
    exact ⟨e, he, hsource, hkind, q, entry, t, htarget, hentry, htype, hreads⟩

end Holder

end KotlinPreferences
