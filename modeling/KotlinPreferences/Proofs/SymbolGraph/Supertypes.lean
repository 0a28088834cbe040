import KotlinPreferences.Proofs.Search
import KotlinPreferences.Proofs.Steps
import KotlinPreferences.Proofs.SymbolGraph.WellFormed
import KotlinPreferences.SymbolGraph.Supertypes

/-!
# The supertypes of a type

* `Extends`: an edge leads from one node to another as a direct supertype;
* `mem_supertypeIds_iff`: the supertypes of a node are the other nodes on the paths of such edges;
* `WellFormed.exists_of_transGen`: they are types;
* `WellFormed.supertypes_total`: where the names of types are keys, their names are found;
* `Declared.supertypes_cases`: where not all of them are types, they may not be.
-/

namespace KotlinPreferences.SymbolGraph

open Relation

variable {g : SymbolGraph} {id other : Text}

/-- An edge leads from one node to another as a direct supertype. -/
def Extends (g : SymbolGraph) (id other : Text) : Prop :=
  ∃ e ∈ g.edges, e.source = id ∧ e.target = other ∧ (e.kind = .inherits ∨ e.kind = .implements)

theorem isSupertype_iff {kind : EdgeKind} :
    kind.isSupertype = true ↔ kind = .inherits ∨ kind = .implements := by
  cases kind <;> simp [EdgeKind.isSupertype]

theorem mem_directSupertypeIds_iff : other ∈ g.directSupertypeIds id ↔ g.Extends id other := by
  simp only [directSupertypeIds, Extends, List.mem_map, List.mem_filter, Bool.and_eq_true,
    decide_eq_true_eq, isSupertype_iff]
  constructor
  · rintro ⟨e, ⟨he, hsource, hkind⟩, htarget⟩
    exact ⟨e, he, hsource, htarget, hkind⟩
  · rintro ⟨e, he, hsource, htarget, hkind⟩
    exact ⟨e, ⟨he, hsource, hkind⟩, htarget⟩

theorem stepsTo_directSupertypeIds : StepsTo g.directSupertypeIds = g.Extends := by
  funext id other
  exact propext mem_directSupertypeIds_iff

/-- A direct supertype is a type. -/
theorem WellFormed.exists_of_extends (h : g.WellFormed) (he : g.Extends id other) :
    ∃ t ∈ g.typeDecls, t.id = other := by
  obtain ⟨e, he, rfl, rfl, hkind⟩ := he
  obtain ⟨s, d, -, hd, hends⟩ := h.fitting e he
  have htype : d.kind = .typeDecl := by
    rcases hkind with hkind | hkind
    · rw [hkind, EdgeKind.ends?, Option.some.injEq, Prod.mk.injEq] at hends
      exact hends.2.symm
    · rw [hkind, EdgeKind.ends?, Option.some.injEq, Prod.mk.injEq] at hends
      exact hends.2.symm
  cases d with
  | typeDecl t =>
    have hid : t.id = e.target := h.declared.id_of_declaration? hd
    exact ⟨t, h.declared.mem_typeDecls_iff.2 (hid.symm ▸ hd), hid⟩
  | property p => cases htype
  | function f => cases htype
  | parameter p => cases htype

theorem WellFormed.exists_of_transGen (h : g.WellFormed) (hpath : TransGen g.Extends id other) :
    ∃ t ∈ g.typeDecls, t.id = other := by
  obtain ⟨between, -, hlast⟩ := TransGen.tail'_iff.1 hpath
  exact h.exists_of_extends hlast

theorem Closed.mem_ids_of_extends (h : g.Closed) (he : g.Extends id other) :
    other ∈ g.nodes.map Node.id := by
  obtain ⟨e, he, -, rfl, -⟩ := he
  exact hasNode_iff.1 (h e he).2

/-- The supertypes of a node are the other nodes on the paths of edges to direct supertypes. -/
theorem Closed.mem_supertypeIds_iff (h : g.Closed) :
    other ∈ g.supertypeIds id ↔ other ≠ id ∧ TransGen g.Extends id other := by
  have hplaces : ∀ a, ∀ b ∈ g.directSupertypeIds a, b ∈ g.nodes.map Node.id := fun a b hb =>
    h.mem_ids_of_extends (mem_directSupertypeIds_iff.1 hb)
  rw [supertypeIds, List.mem_filter, mem_search_iff hplaces, stepsTo_directSupertypeIds,
    reflTransGen_iff_eq_or_transGen, decide_eq_true_eq]
  constructor
  · rintro ⟨heq | hpath, hne⟩
    · exact absurd heq hne
    · exact ⟨hne, hpath⟩
  · rintro ⟨hne, hpath⟩
    exact ⟨.inr hpath, hne⟩

/-- The name of a type is found, since it is a key. -/
theorem Keyed.nameAt_eq (h : g.Keyed) {t : TypeDecl} (ht : g.declaration? id = some (.typeDecl t)) :
    g.nameAt id = .ok t.qualifiedName := by
  rw [nameAt, declaration_of_declaration? ht, ok_bind, Declaration.qualifiedName?, orFail_some,
    ok_bind, if_pos (h id t ht)]
  rfl

/-- Where the names of types are keys, the names of the supertypes of a node are found. -/
theorem WellFormed.supertypes_total (h : g.WellFormed) (hkeyed : g.Keyed) (id : Text) :
    ∃ names, g.supertypes id = .ok names ∧ ∀ name, name ∈ names ↔
      ∃ t ∈ g.typeDecls, t.qualifiedName = name ∧ t.id ≠ id ∧ TransGen g.Extends id t.id := by
  have htype : ∀ other ∈ g.supertypeIds id, ∃ t ∈ g.typeDecls, t.id = other := fun other hother =>
    h.exists_of_transGen (h.closed.mem_supertypeIds_iff.1 hother).2
  have hfound : ∀ t ∈ g.typeDecls, g.nameAt t.id = .ok t.qualifiedName := fun t ht =>
    hkeyed.nameAt_eq (h.declared.mem_typeDecls_iff.1 ht)
  obtain ⟨nameOf, hnameOf⟩ : ∃ k : Text → Value, ∀ other ∈ g.supertypeIds id,
      g.nameAt other = .ok (k other) := by
    refine exists_results fun other hother => ?_
    obtain ⟨t, ht, rfl⟩ := htype other hother
    exact ⟨_, hfound t ht⟩
  -- the name that is found at the id of a type is the name of that type
  have hname : ∀ t ∈ g.typeDecls, t.id ∈ g.supertypeIds id → nameOf t.id = t.qualifiedName := by
    intro t ht hid
    have hread := hnameOf t.id hid
    rw [hfound t ht, Except.ok.injEq] at hread
    exact hread.symm
  refine ⟨_, mapM_eq_map hnameOf, fun name => ?_⟩
  rw [List.mem_map]
  constructor
  · rintro ⟨other, hother, rfl⟩
    obtain ⟨t, ht, rfl⟩ := htype other hother
    exact ⟨t, ht, (hname t ht hother).symm, h.closed.mem_supertypeIds_iff.1 hother⟩
  · rintro ⟨t, ht, rfl, hpath⟩
    have hid := h.closed.mem_supertypeIds_iff.2 hpath
    exact ⟨t.id, hid, hname t ht hid⟩

/-- Whatever stands at the ends of the edges to supertypes, the names of the supertypes of a node are
found, or one of them is no type. -/
theorem Declared.supertypes_cases (h : g.Declared) (hclosed : g.Closed) (hkeyed : g.Keyed)
    (id : Text) :
    (∃ names, g.supertypes id = .ok names) ∨ g.supertypes id = .error .wrongShape := by
  have hname : ∀ other ∈ g.supertypeIds id,
      (∃ name, g.nameAt other = .ok name) ∨ g.nameAt other = .error .wrongShape := by
    intro other hother
    obtain ⟨between, -, hlast⟩ := TransGen.tail'_iff.1 (hclosed.mem_supertypeIds_iff.1 hother).2
    obtain ⟨d, hd, -⟩ := h.exists_declaration? (hasNode_iff.2 (hclosed.mem_ids_of_extends hlast))
    cases d with
    | typeDecl t => exact .inl ⟨_, hkeyed.nameAt_eq hd⟩
    | property p => exact .inr (by simp [nameAt, declaration_of_declaration? hd,
        Declaration.qualifiedName?])
    | function f => exact .inr (by simp [nameAt, declaration_of_declaration? hd,
        Declaration.qualifiedName?])
    | parameter p => exact .inr (by simp [nameAt, declaration_of_declaration? hd,
        Declaration.qualifiedName?])
  cases hnames : g.supertypes id with
  | ok names => exact .inl ⟨names, rfl⟩
  | error failure =>
    obtain ⟨other, hother, hfails⟩ := exists_of_mapM_error hnames
    rcases hname other hother with ⟨name, hok⟩ | hwrong
    · rw [hok] at hfails
      cases hfails
    · rw [hwrong, Except.error.injEq] at hfails
      exact .inr (hfails ▸ rfl)

end KotlinPreferences.SymbolGraph
