import KotlinPreferences.Proofs.Document.Comparison
import KotlinPreferences.Proofs.Preference.Verdicts

/-!
# What a larger graph keeps

A graph may grow by types under names and ids of their own, and by edges to supertypes. Then every
declaration keeps its members, in their order; every name leads where it led before; and what could
be reached over supertypes still can.

* `SymbolGraph.PartOf`: a graph is part of a larger one in this sense;
* `PartOf.targetsOf_eq`, `PartOf.reader?_eq`, `PartOf.constructible_iff`: members stay the same;
* `PartOf.assignable`, `PartOf.isAssignable`: what was assignable stays assignable;
* `PartOf.validate`, `PartOf.isConsistent`: what was valid, or consistent, stays so.
-/

namespace KotlinPreferences

namespace SymbolGraph

open Relation

variable {g g' : SymbolGraph} {id : Text} {kind : EdgeKind} {t : TypeDecl} {p : Preference}

/-! ### Edges to members -/

/-- The edges that lead to no supertype. -/
def memberEdges (g : SymbolGraph) : List Edge := g.edges.filter fun e => !e.kind.isSupertype

theorem mem_memberEdges_iff {e : Edge} (hkind : e.kind.isSupertype = false) :
    e ∈ g.memberEdges ↔ e ∈ g.edges := by
  simp [memberEdges, hkind]

/-- The edges to members of one kind are found among the edges to all members. -/
theorem filter_edges_eq (hkind : kind.isSupertype = false) (id : Text) :
    (g.edges.filter fun e => e.source = id ∧ e.kind = kind) =
      g.memberEdges.filter fun e => e.source = id ∧ e.kind = kind := by
  rw [memberEdges, List.filter_filter]
  refine List.filter_congr fun e _ => ?_
  by_cases hk : e.kind = kind
  · simp [hk, hkind]
  · simp [hk]

/-! ### A part of a graph -/

/-- A graph is part of a larger one: what it declares and names is declared and named there alike; it
has the same edges, apart from those to supertypes; and those are there, too. -/
structure PartOf (g g' : SymbolGraph) : Prop where
  wellFormed : g.WellFormed
  wellFormed' : g'.WellFormed
  within : g.Within g'
  typeNamed? : ∀ key d, g.typeNamed? key = some d → g'.typeNamed? key = some d
  members : g.memberEdges = g'.memberEdges
  supertypes : ∀ id other, g.Extends id other → g'.Extends id other

namespace PartOf

theorem mem_typeDecls (h : g.PartOf g') (ht : t ∈ g.typeDecls) : t ∈ g'.typeDecls :=
  h.wellFormed'.declared.mem_typeDecls_iff.2
    (h.within _ _ (h.wellFormed.declared.mem_typeDecls_iff.1 ht))

/-- What is marked as a holder stays marked as one. -/
theorem mem_holders (h : g.PartOf g') (ht : t ∈ g.holders) : t ∈ g'.holders := by
  obtain ⟨hmem, hmarked⟩ := List.mem_filter.1 ht
  exact List.mem_filter.2 ⟨h.mem_typeDecls hmem, hmarked⟩

/-! ### Members -/

/-- Every declaration keeps its members, in their order. -/
theorem targetsOf_eq (h : g.PartOf g') (hkind : kind.isSupertype = false) (id : Text) :
    g.targetsOf id kind = g'.targetsOf id kind := by
  rw [targetsOf, targetsOf, h.wellFormed.edgesFrom_filter hkind, h.wellFormed'.edgesFrom_filter hkind,
    filter_edges_eq hkind, filter_edges_eq hkind, ← h.members]
  refine List.filterMap_congr fun e he => ?_
  simp only [List.mem_filter, mem_grouped, memberEdges] at he
  obtain ⟨s, d, -, hd, -⟩ := h.wellFormed.fitting e he.1.1
  rw [hd, h.within _ _ hd]

theorem properties_eq (h : g.PartOf g') (id : Text) : g.properties id = g'.properties id := by
  rw [h.wellFormed.sound.properties_eq, h.wellFormed'.sound.properties_eq, h.targetsOf_eq rfl]

theorem functionsOf_eq (h : g.PartOf g') (id : Text) : g.functionsOf id = g'.functionsOf id := by
  rw [functionsOf, functionsOf, h.targetsOf_eq rfl]

theorem reader?_eq (h : g.PartOf g') (t : TypeDecl) : g.reader? t = g'.reader? t := by
  rw [reader?, reader?, h.functionsOf_eq]

theorem constructible_iff (h : g.PartOf g') : g.Constructible t ↔ g'.Constructible t := by
  have hedge : ∀ e : Edge, e.kind = .paramOf → (e ∈ g.edges ↔ e ∈ g'.edges) := by
    intro e hkind
    have hmember : e.kind.isSupertype = false := by rw [hkind]; rfl
    rw [← mem_memberEdges_iff hmember, ← mem_memberEdges_iff hmember, h.members]
  have hplain : ∀ f : Function, (∀ e ∈ g.edges, e.kind = .paramOf → e.target ≠ f.id) ↔
      ∀ e ∈ g'.edges, e.kind = .paramOf → e.target ≠ f.id := fun f =>
    ⟨fun hall e he hkind => hall e ((hedge e hkind).2 he) hkind,
      fun hall e he hkind => hall e ((hedge e hkind).1 he) hkind⟩
  simp only [Constructible, h.functionsOf_eq, hplain]

/-! ### Assignability -/

theorem assignable (h : g.PartOf g') {target source : TypeRef} (ha : g.Assignable target source) :
    g'.Assignable target source where
  null := ha.null
  widens := by
    cases ha.widens with
    | any hname => exact .any hname
    | same hname hfit => exact .same hname hfit
    | supertype hname hfit hd ht htarget hpath =>
      exact .supertype hname hfit (h.typeNamed? _ _ hd) (h.mem_typeDecls ht) htarget
        (TransGen.mono h.supertypes _ _ hpath)

/-- What was assignable stays assignable. -/
theorem isAssignable (h : g.PartOf g') (hkeyed : g.Keyed) (hkeyed' : g'.Keyed)
    {target source : TypeRef} (ha : g.isAssignable target source = .ok true) :
    g'.isAssignable target source = .ok true := by
  obtain ⟨answer, hanswer, hiff⟩ := h.wellFormed.isAssignable_of_keyed hkeyed target source
  obtain ⟨answer', hanswer', hiff'⟩ := h.wellFormed'.isAssignable_of_keyed hkeyed' target source
  rw [hanswer, Except.ok.injEq] at ha
  rw [hanswer', hiff'.2 (h.assignable (hiff.1 ha))]

/-! ### Preferences -/

theorem arguments (h : g.PartOf g') {arguments : Preference.Arguments}
    (harguments : p.arguments g = .ok arguments) : p.arguments g' = .ok arguments := by
  obtain ⟨hconverter, hgiven⟩ := arguments_eq_ok_iff.1 harguments
  obtain ⟨key, hkey, hd⟩ := converter_eq_ok_iff.1 hconverter
  exact arguments_eq_ok_iff.2 ⟨converter_eq_ok_iff.2 ⟨key, hkey, h.typeNamed? _ _ hd⟩, hgiven⟩

theorem serves (h : g.PartOf g') (hserves : g.Serves t p) : g'.Serves t p where
  arguments := by
    obtain ⟨key, default, harguments⟩ := hserves.arguments
    exact ⟨key, default, h.arguments harguments⟩
  constructible := h.constructible_iff.1 hserves.constructible
  reads := by
    obtain ⟨declared, f, given, htype, hreader, hreturn, hfits⟩ := hserves.reads
    exact ⟨declared, f, given, htype, h.reader?_eq t ▸ hreader, hreturn, h.assignable hfits⟩

/-- What was valid stays valid. -/
theorem validate (h : g.PartOf g') (hkeyed : g.Keyed) (hkeyed' : g'.Keyed)
    (hvalid : p.validate g = .ok .valid) : p.validate g' = .ok .valid := by
  obtain ⟨t, hserves⟩ := (h.wellFormed.validate_eq_valid_iff hkeyed).1 hvalid
  exact (h.wellFormed'.validate_eq_valid_iff hkeyed').2 ⟨t, h.serves hserves⟩

/-! ### Holders -/

theorem knowsConverter (h : g.PartOf g') {name : Value} (hknown : g.knowsConverter name = true) :
    g'.knowsConverter name = true := by
  cases name with
  | str name =>
    obtain ⟨d, hd⟩ := Option.isSome_iff_exists.1 hknown
    exact Option.isSome_iff_exists.2 ⟨d, h.typeNamed? _ _ hd⟩
  | _ => cases hknown

theorem resolvesEntry (h : g.PartOf g') {entry : AnnotationEntry}
    (hresolves : g.resolvesEntry entry = true) : g'.resolvesEntry entry = true := by
  simp only [SymbolGraph.resolvesEntry, Bool.and_eq_true] at hresolves ⊢
  exact ⟨hresolves.1, h.knowsConverter hresolves.2⟩

theorem resolves (h : g.PartOf g') {property : Declaration}
    (hresolves : g.resolves property = .ok true) : g'.resolves property = .ok true := by
  simp only [SymbolGraph.resolves, bind_eq_ok_iff] at hresolves ⊢
  obtain ⟨type, htype, hresolves⟩ := hresolves
  refine ⟨type, htype, ?_⟩
  split_ifs at hresolves ⊢ with hname
  · cases hresolves
  · rw [bind_eq_ok_iff] at hresolves ⊢
    obtain ⟨entries, hentries, hresolves⟩ := hresolves
    refine ⟨entries, hentries, ?_⟩
    split at hresolves
    · rfl
    · exact congrArg Except.ok (h.resolvesEntry (Except.ok.inj hresolves))

/-- What was consistent stays consistent. -/
theorem isConsistent (h : g.PartOf g') (hconsistent : g.isConsistent id = .ok true) :
    g'.isConsistent id = .ok true := by
  rw [SymbolGraph.isConsistent, h.wellFormed.sound.properties_eq, ok_bind, allM_eq_ok_true_iff]
    at hconsistent
  rw [SymbolGraph.isConsistent, h.wellFormed'.sound.properties_eq, ok_bind, allM_eq_ok_true_iff,
    ← h.targetsOf_eq rfl]
  exact fun property hproperty => h.resolves (hconsistent property hproperty)

end PartOf

end SymbolGraph

end KotlinPreferences
