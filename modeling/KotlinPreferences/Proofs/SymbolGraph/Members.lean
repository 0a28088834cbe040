import KotlinPreferences.Proofs.Grouping
import KotlinPreferences.Proofs.Steps
import KotlinPreferences.Proofs.SymbolGraph.WellFormed

/-!
# Members of a declaration

In a sound graph every edge to a member leads to a declaration of the right kind. So the members of
a declaration can always be read, and here they are given without failures.

* `targetsOf`, `sourcesOf`: the declarations at the other ends of the edges of one kind;
* `Sound.targets_eq`, `Sound.sources_eq`: they are what is read;
* `functionsOf`, `Sound.callables_eq`: the functions and constructors of a declaration;
* `targetsIn`, `sourcesIn`: the ids at the other ends of the edges of one kind, in the order of the
  edges;
* `WellFormed.kind_eq`: two edges between the same nodes are of the same kind, if one leads to a
  member;
* `WellFormed.edgesFrom_filter`, `WellFormed.edgesTo_filter`: edges of that kind are read past all
  others;
* `WellFormed.forall₂_targetsOf`, `WellFormed.forall₂_sourcesOf`: the members are read in runs of these
  ids.
-/

namespace KotlinPreferences.SymbolGraph

variable {g : SymbolGraph} {id : Text} {kind : EdgeKind} {d : Declaration}

/-- The declarations at the ends of the edges of one kind out of a node, in reading order. -/
def targetsOf (g : SymbolGraph) (id : Text) (kind : EdgeKind) : List Declaration :=
  ((g.edgesFrom id).filter fun e => e.kind = kind).filterMap fun e => g.declaration? e.target

/-- The declarations at the ends of the edges of one kind into a node, in reading order. -/
def sourcesOf (g : SymbolGraph) (id : Text) (kind : EdgeKind) : List Declaration :=
  ((g.edgesTo id).filter fun e => e.kind = kind).filterMap fun e => g.declaration? e.source

theorem mem_targetsOf_iff : d ∈ g.targetsOf id kind ↔
    ∃ e ∈ g.edges, e.source = id ∧ e.kind = kind ∧ g.declaration? e.target = some d := by
  simp only [targetsOf, edgesFrom, List.mem_filterMap, List.mem_filter, mem_grouped,
    decide_eq_true_eq]
  constructor
  · rintro ⟨e, ⟨⟨he, hsource⟩, hkind⟩, hd⟩
    exact ⟨e, he, hsource, hkind, hd⟩
  · rintro ⟨e, he, hsource, hkind, hd⟩
    exact ⟨e, ⟨⟨he, hsource⟩, hkind⟩, hd⟩

/-- In a sound graph the members of a declaration can be read. -/
theorem Sound.targets_eq (h : g.Sound) (hkind : kind.isSupertype = false) (id : Text) :
    g.targets id kind = .ok (g.targetsOf id kind) := by
  refine mapM_eq_filterMap fun e he => ?_
  simp only [edgesFrom, List.mem_filter, mem_grouped, decide_eq_true_eq] at he
  obtain ⟨-, d, -, hd, -⟩ := h.fitting e he.1.1 (he.2 ▸ hkind)
  exact ⟨d, declaration_of_declaration? hd, hd⟩

theorem Sound.sources_eq (h : g.Sound) (hkind : kind.isSupertype = false) (id : Text) :
    g.sources id kind = .ok (g.sourcesOf id kind) := by
  refine mapM_eq_filterMap fun e he => ?_
  simp only [edgesTo, List.mem_filter, mem_grouped, decide_eq_true_eq] at he
  obtain ⟨d, -, hd, -, -⟩ := h.fitting e he.1.1 (he.2 ▸ hkind)
  exact ⟨d, declaration_of_declaration? hd, hd⟩

/-- The members of a kind are declarations of the kind that their edges prescribe. -/
theorem Sound.kind_of_mem_targetsOf (h : g.Sound) {ends : NodeKind × NodeKind}
    (hends : kind.ends? = some ends) (hkind : kind.isSupertype = false)
    (hd : d ∈ g.targetsOf id kind) : d.kind = ends.2 := by
  obtain ⟨e, he, -, rfl, htarget⟩ := mem_targetsOf_iff.1 hd
  obtain ⟨s, t, -, ht, hfit⟩ := h.fitting e he hkind
  rw [htarget, Option.some.injEq] at ht
  rw [hends, Option.some.injEq] at hfit
  rw [ht, hfit]

/-- In a sound graph nothing leads into a node exactly where no edge does. -/
theorem Sound.sourcesOf_eq_nil_iff (h : g.Sound) (hkind : kind.isSupertype = false) :
    g.sourcesOf id kind = [] ↔ ∀ e ∈ g.edges, e.kind = kind → e.target ≠ id := by
  simp only [sourcesOf, edgesTo, List.filterMap_eq_nil_iff, List.mem_filter, mem_grouped,
    decide_eq_true_eq]
  constructor
  · intro hnone e he hek hid
    obtain ⟨s, -, hs, -, -⟩ := h.fitting e he (hek ▸ hkind)
    rw [hnone e ⟨⟨he, hid⟩, hek⟩] at hs
    cases hs
  · rintro hnone e ⟨⟨he, hid⟩, hek⟩
    exact absurd hid (hnone e he hek)

/-! ### Properties -/

theorem Sound.properties_eq (h : g.Sound) (id : Text) :
    g.properties id = .ok (g.targetsOf id .hasProperty) := h.targets_eq rfl id

theorem Sound.property_of_mem (h : g.Sound) (hd : d ∈ g.targetsOf id .hasProperty) :
    ∃ q, d = .property q := by
  have hkind : d.kind = .property := h.kind_of_mem_targetsOf rfl rfl hd
  cases d with
  | property q => exact ⟨q, rfl⟩
  | typeDecl t => cases hkind
  | function f => cases hkind
  | parameter p => cases hkind

/-! ### Functions -/

/-- The functions and constructors of a declaration, in reading order. -/
def functionsOf (g : SymbolGraph) (id : Text) : List Function :=
  (g.targetsOf id .hasFunction).filterMap Declaration.function?

theorem Sound.callables_eq (h : g.Sound) (id : Text) :
    g.callables id = .ok (g.functionsOf id) := by
  rw [callables, h.targets_eq rfl, ok_bind]
  refine mapM_eq_filterMap fun d hd => ?_
  have hkind : d.kind = .function := h.kind_of_mem_targetsOf rfl rfl hd
  cases d with
  | function f => exact ⟨f, rfl, rfl⟩
  | typeDecl t => cases hkind
  | property p => cases hkind
  | parameter p => cases hkind

theorem Sound.map_functionsOf (h : g.Sound) (id : Text) :
    (g.functionsOf id).map .function = g.targetsOf id .hasFunction := by
  have hcallables := h.callables_eq id
  rw [callables, h.targets_eq rfl, ok_bind, mapM_eq_ok_iff] at hcallables
  generalize g.targetsOf id .hasFunction = ds, g.functionsOf id = fs at hcallables
  induction hcallables with
  | nil => rfl
  | @cons d f ds fs hd _ ih =>
    cases d <;> cases orFail_eq_ok_iff.1 hd
    rw [List.map_cons, ih]

/-! ### The order of members -/

/-- The targets of the edges of one kind out of a node, in the order of the edges. -/
def targetsIn (es : List Edge) (id : Text) (kind : EdgeKind) : List Text :=
  (es.filter fun e => e.source = id ∧ e.kind = kind).map Edge.target

/-- The sources of the edges of one kind into a node, in the order of the edges. -/
def sourcesIn (es : List Edge) (id : Text) (kind : EdgeKind) : List Text :=
  (es.filter fun e => e.target = id ∧ e.kind = kind).map Edge.source

theorem nodup_targetsIn {es : List Edge} (h : es.Nodup) (id : Text) (kind : EdgeKind) :
    (targetsIn es id kind).Nodup := by
  refine (h.filter _).map_on ?_
  rintro ⟨s, t, k⟩ hmem ⟨s', t', k'⟩ hmem' htarget
  simp_all

theorem nodup_sourcesIn {es : List Edge} (h : es.Nodup) (id : Text) (kind : EdgeKind) :
    (sourcesIn es id kind).Nodup := by
  refine (h.filter _).map_on ?_
  rintro ⟨s, t, k⟩ hmem ⟨s', t', k'⟩ hmem' hsource
  simp_all

/-- The kinds of its ends tell the kind of an edge to a member. -/
theorem kind_eq_of_ends {kind' : EdgeKind} {ends : NodeKind × NodeKind}
    (hkind : kind.isSupertype = false) (hends : kind.ends? = some ends)
    (hends' : kind'.ends? = some ends) : kind = kind' := by
  cases kind with
  | inherits | implements => cases hkind
  | other label => cases hends
  | hasProperty | hasFunction | paramOf =>
    cases hends
    cases kind' <;> cases hends'
    rfl

/-- Two edges between the same nodes are of the same kind, if one of them leads to a member. -/
theorem WellFormed.kind_eq (h : g.WellFormed) {a b : Edge} (ha : a ∈ g.edges) (hb : b ∈ g.edges)
    (hsource : a.source = b.source) (htarget : a.target = b.target)
    (hkind : a.kind.isSupertype = false) : a.kind = b.kind := by
  obtain ⟨s, t, hs, ht, hends⟩ := h.fitting a ha
  obtain ⟨s', t', hs', ht', hends'⟩ := h.fitting b hb
  rw [hsource, hs', Option.some.injEq] at hs
  rw [htarget, ht', Option.some.injEq] at ht
  rw [hs, ht] at hends'
  exact kind_eq_of_ends hkind hends hends'

/-- Edges at one end of which a node stands are read grouped by the other end. Those of one kind, if it
leads to members, are read past all others. -/
theorem WellFormed.filter_grouped_edges (h : g.WellFormed) (hkind : kind.isSupertype = false)
    {near far : Edge → Text}
    (hends : ∀ a b, near a = near b → far a = far b → a.source = b.source ∧ a.target = b.target)
    (id : Text) :
    ((grouped far (g.edges.filter fun e => near e = id)).filter fun e => e.kind = kind) =
      grouped far (g.edges.filter fun e => near e = id ∧ e.kind = kind) := by
  have hsame : ∀ a ∈ g.edges.filter (fun e => near e = id),
      ∀ b ∈ g.edges.filter (fun e => near e = id), far a = far b → a.kind = kind →
        b.kind = kind := by
    intro a ha b hb hfar hak
    rw [List.mem_filter, decide_eq_true_eq] at ha hb
    obtain ⟨hsource, htarget⟩ := hends a b (ha.2.trans hb.2.symm) hfar
    rw [← h.kind_eq ha.1 hb.1 hsource htarget (hak ▸ hkind), hak]
  rw [filter_grouped fun a ha b hb hfar => decide_eq_decide.2
    ⟨hsame a ha b hb hfar, hsame b hb a ha hfar.symm⟩, List.filter_filter]
  simp only [Bool.decide_and, Bool.and_comm]

theorem WellFormed.edgesFrom_filter (h : g.WellFormed) (hkind : kind.isSupertype = false)
    (id : Text) : ((g.edgesFrom id).filter fun e => e.kind = kind) =
      grouped Edge.target (g.edges.filter fun e => e.source = id ∧ e.kind = kind) :=
  h.filter_grouped_edges hkind (fun _ _ hsource htarget => ⟨hsource, htarget⟩) id

theorem WellFormed.edgesTo_filter (h : g.WellFormed) (hkind : kind.isSupertype = false)
    (id : Text) : ((g.edgesTo id).filter fun e => e.kind = kind) =
      grouped Edge.source (g.edges.filter fun e => e.target = id ∧ e.kind = kind) :=
  h.filter_grouped_edges hkind (fun _ _ htarget hsource => ⟨hsource, htarget⟩) id

/-- The members at the ends of the edges of one kind are read in the runs of their ids. -/
theorem WellFormed.forall₂_targetsOf (h : g.WellFormed) (hkind : kind.isSupertype = false)
    (id : Text) : List.Forall₂ (fun i d => g.declaration i = .ok d)
      (runs (targetsIn g.edges id kind)) (g.targetsOf id kind) := by
  rw [← mapM_eq_ok_iff, ← h.sound.targets_eq hkind, targets, h.edgesFrom_filter hkind, targetsIn,
    ← map_grouped, List.mapM_map]
  rfl

theorem WellFormed.forall₂_sourcesOf (h : g.WellFormed) (hkind : kind.isSupertype = false)
    (id : Text) : List.Forall₂ (fun i d => g.declaration i = .ok d)
      (runs (sourcesIn g.edges id kind)) (g.sourcesOf id kind) := by
  rw [← mapM_eq_ok_iff, ← h.sound.sources_eq hkind, sources, h.edgesTo_filter hkind, sourcesIn,
    ← map_grouped, List.mapM_map]
  rfl

end KotlinPreferences.SymbolGraph
