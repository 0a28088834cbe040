import KotlinPreferences.Proofs.SymbolGraph.Growth
import Mathlib.Data.List.Induction
import Mathlib.Data.List.Nodup

/-!
# Well-formed symbol graphs

What holds of the graph of every document, and how it passes over the growth of the graph.

* `Declared`: every node declares something under an id of its own;
* `Indexed`: the names of types lead to the types of the graph;
* `Fits`: an edge joins declarations of the kinds that its own kind prescribes;
* `WellFormed`: all three; `WellFormed.insert` and `WellFormed.connect` keep it;
* `Sound`: what is left where a declaration may take the place of another one: every node declares
  something, and the edges to members fit;
* `Closed`, `Keyed`: what no growth breaks: the ends of every edge have come up, and the name of
  every type is a key;
* `typeNamed?_eq_find?`: in an indexed graph a name leads to the last type of that name.
-/

namespace KotlinPreferences.SymbolGraph

variable {g : SymbolGraph} {d : Declaration} {e : Edge} {id : Text}

/-- An edge joins two declarations of the kinds that its own kind prescribes. -/
def Fits (g : SymbolGraph) (e : Edge) : Prop :=
  ∃ s t, g.declaration? e.source = some s ∧ g.declaration? e.target = some t ∧
    e.kind.ends? = some (s.kind, t.kind)

theorem Fits.hasNode_source (h : g.Fits e) : g.hasNode e.source = true := by
  obtain ⟨s, t, hs, -, -⟩ := h
  exact hasNode_of_declaration? hs

theorem Fits.hasNode_target (h : g.Fits e) : g.hasNode e.target = true := by
  obtain ⟨s, t, -, ht, -⟩ := h
  exact hasNode_of_declaration? ht

/-- A declaration of another id leaves an edge alone. -/
theorem Fits.insert (h : g.Fits e) (hs : e.source ≠ d.id) (ht : e.target ≠ d.id) :
    (g.insert d).Fits e := by
  obtain ⟨s, t, h⟩ := h
  refine ⟨s, t, ?_⟩
  rwa [declaration?_insert, declaration?_insert, if_neg hs, if_neg ht]

theorem ne_of_hasNode (h : g.hasNode id = true) (hnew : g.hasNode d.id = false) : id ≠ d.id := by
  rintro rfl
  rw [h] at hnew
  cases hnew

/-- What is declared stays declared when something new comes up. -/
theorem declaration?_insert_of_new {d' : Declaration} (h : g.declaration? id = some d')
    (hnew : g.hasNode d.id = false) : (g.insert d).declaration? id = some d' := by
  rw [declaration?_insert, if_neg (ne_of_hasNode (hasNode_of_declaration? h) hnew), h]

theorem Fits.insert_of_new (h : g.Fits e) (hnew : g.hasNode d.id = false) :
    (g.insert d).Fits e :=
  h.insert (ne_of_hasNode h.hasNode_source hnew) (ne_of_hasNode h.hasNode_target hnew)

theorem Fits.connect {e' : Edge} (h : g.Fits e) : (g.connect e').Fits e := by
  obtain ⟨s, t, h⟩ := h
  refine ⟨s, t, ?_⟩
  rwa [declaration?_connect, declaration?_connect]

/-! ### Nodes with declarations -/

/-- Every node declares something under an id of its own, which is not empty. -/
structure Declared (g : SymbolGraph) : Prop where
  nodup : (g.nodes.map Node.id).Nodup
  declared : ∀ n ∈ g.nodes, ∃ d, n.declaration = some d ∧ d.id = n.id
  nonempty : ∀ n ∈ g.nodes, n.id ≠ ""

theorem Declared.empty : Declared {} where
  nodup := List.nodup_nil
  declared := by simp
  nonempty := by simp

theorem Declared.insert (h : g.Declared) (hne : d.id ≠ "") : (g.insert d).Declared where
  nodup := by
    by_cases hin : g.hasNode d.id = true
    · rw [ids_insert_of_hasNode hin]
      exact h.nodup
    · have hnew : g.hasNode d.id = false := by simpa using hin
      rw [hasNode_iff] at hin
      rw [nodes_insert_of_new hnew, List.map_append, List.nodup_append]
      refine ⟨h.nodup, List.nodup_singleton _, ?_⟩
      intro a ha b hb hab
      rw [hab, List.mem_singleton.1 hb] at ha
      exact hin ha
  declared n hn := by
    rcases mem_nodes_insert hn with rfl | hold
    · exact ⟨d, rfl, rfl⟩
    · exact h.declared n hold
  nonempty n hn := by
    rcases mem_nodes_insert hn with rfl | hold
    · exact hne
    · exact h.nonempty n hold

theorem Declared.connect (h : g.Declared) (hs : g.hasNode e.source = true)
    (ht : g.hasNode e.target = true) : (g.connect e).Declared := by
  have hnodes := nodes_connect hs ht
  refine ⟨?_, ?_, ?_⟩
  · rw [hnodes]
    exact h.nodup
  · rw [hnodes]
    exact h.declared
  · rw [hnodes]
    exact h.nonempty

/-- The node of an id is the only one of that id. -/
theorem Declared.node?_of_mem (h : g.Declared) {n : Node} (hn : n ∈ g.nodes) :
    g.node? n.id = some n := by
  have hsome : (g.node? n.id).isSome = true := hasNode_iff.2 (List.mem_map_of_mem hn)
  obtain ⟨m, hm⟩ := Option.isSome_iff_exists.1 hsome
  rw [hm, List.inj_on_of_nodup_map h.nodup (mem_of_node? hm) hn (id_of_node? hm)]

theorem Declared.declaration?_of_mem (h : g.Declared) {n : Node} (hn : n ∈ g.nodes) :
    g.declaration? n.id = n.declaration := by
  rw [declaration?, h.node?_of_mem hn, Option.bind_some]

theorem Declared.exists_declaration? (h : g.Declared) (hid : g.hasNode id = true) :
    ∃ d, g.declaration? id = some d ∧ d.id = id := by
  obtain ⟨n, hn⟩ := Option.isSome_iff_exists.1 hid
  obtain ⟨d, hd, hdid⟩ := h.declared n (mem_of_node? hn)
  refine ⟨d, ?_, hdid.trans (id_of_node? hn)⟩
  rw [declaration?, hn, Option.bind_some, hd]

theorem Declared.hasNode_eq_false (h : g.Declared) (hd : g.declaration? id = none) :
    g.hasNode id = false := by
  by_contra hid
  obtain ⟨d, hd', -⟩ := h.exists_declaration? (by simpa using hid)
  rw [hd] at hd'
  cases hd'

theorem Declared.hasNode_eq (h : g.Declared) (id : Text) :
    g.hasNode id = (g.declaration? id).isSome := by
  cases hd : g.declaration? id with
  | none => exact h.hasNode_eq_false hd
  | some d => exact hasNode_of_declaration? hd

/-- A declaration stands under its own id. -/
theorem Declared.id_of_declaration? (h : g.Declared) (hd : g.declaration? id = some d) :
    d.id = id := by
  obtain ⟨d', hd', hid⟩ := h.exists_declaration? (hasNode_of_declaration? hd)
  rw [hd, Option.some.injEq] at hd'
  rw [hd', hid]

theorem Declared.mem_typeDecls_iff (h : g.Declared) {t : TypeDecl} :
    t ∈ g.typeDecls ↔ g.declaration? t.id = some (.typeDecl t) := by
  rw [typeDecls, List.mem_filterMap]
  constructor
  · rintro ⟨n, hn, ht⟩
    obtain ⟨d, hd, hid⟩ := h.declared n hn
    rw [hd, Option.bind_some] at ht
    cases d <;> cases ht
    rw [show t.id = n.id from hid, h.declaration?_of_mem hn, hd]
  · intro ht
    obtain ⟨n, hn, hd⟩ := Option.bind_eq_some_iff.1 ht
    exact ⟨n, mem_of_node? hn, by rw [hd]; rfl⟩

/-- The ids of the types are some of the ids of the nodes, in the same order. -/
theorem Declared.ids_typeDecls_sublist (h : g.Declared) :
    (g.typeDecls.map TypeDecl.id).Sublist (g.nodes.map Node.id) := by
  rw [typeDecls]
  -- only that each node declares something under its id is needed, so the nodes may be any list
  have hdeclared := h.declared
  generalize g.nodes = nodes at hdeclared
  induction nodes with
  | nil => exact List.nil_sublist _
  | cons n rest ih =>
    have hrest := ih fun m hm => hdeclared m (List.mem_cons_of_mem _ hm)
    obtain ⟨d, hd, hid⟩ := hdeclared n List.mem_cons_self
    rw [List.filterMap_cons, hd, Option.bind_some, List.map_cons]
    cases d with
    | typeDecl t =>
      rw [← hid]
      exact hrest.cons_cons _
    | property p => exact hrest.cons _
    | function f => exact hrest.cons _
    | parameter p => exact hrest.cons _

theorem Declared.nodup_typeDecls (h : g.Declared) : (g.typeDecls.map TypeDecl.id).Nodup :=
  h.nodup.sublist h.ids_typeDecls_sublist

/-! ### Names of types -/

/-- What is found under a key stands in the list with that key. -/
theorem mem_of_lookup {α β : Type} [BEq α] [LawfulBEq α] {l : List (α × β)} {a : α} {b : β}
    (h : l.lookup a = some b) : (a, b) ∈ l := by
  obtain ⟨front, back, rfl, -⟩ := List.lookup_eq_some_iff.1 h
  exact List.mem_append_right _ List.mem_cons_self

/-- A type found by its name stands under its own id. -/
theorem declaration?_of_typeNamed? (h : g.Declared) {key : Key} (hd : g.typeNamed? key = some d) :
    g.declaration? d.id = some d := by
  unfold typeNamed? at hd
  split at hd
  · cases hd
  · split at hd
    · cases hd
    · rwa [h.id_of_declaration? hd]

/-- The types of a graph with the keys of their names, in the order of their nodes. -/
def registrations (types : List TypeDecl) : List (Key × Text) :=
  types.filterMap fun t => t.qualifiedName.key?.map fun key => (key, t.id)

/-- The names lead to the types of the graph, the latest first. -/
def Indexed (g : SymbolGraph) : Prop := g.names = (registrations g.typeDecls).reverse

theorem Indexed.insert (h : g.Indexed) (hnew : g.hasNode d.id = false) : (g.insert d).Indexed := by
  rw [Indexed, typeDecls_insert_of_new hnew]
  show registered g.names d = _
  rw [h, registered, nameKey?]
  cases d with
  | typeDecl t =>
    cases hkey : t.qualifiedName.key? <;>
      simp [registrations, Declaration.qualifiedName?, Declaration.typeDecl?, hkey, Declaration.id]
  | property p => simp [registrations, Declaration.qualifiedName?, Declaration.typeDecl?]
  | function f => simp [registrations, Declaration.qualifiedName?, Declaration.typeDecl?]
  | parameter p => simp [registrations, Declaration.qualifiedName?, Declaration.typeDecl?]

theorem Indexed.connect (h : g.Indexed) (hs : g.hasNode e.source = true)
    (ht : g.hasNode e.target = true) : (g.connect e).Indexed := by
  rw [Indexed, names_connect, typeDecls, nodes_connect hs ht]
  exact h

/-- Looking a key up among the latest registrations finds the last type of that name. -/
theorem lookup_registrations (types : List TypeDecl) (key : Key) :
    (registrations types).reverse.lookup key =
      (types.reverse.find? fun t => t.qualifiedName.key? = some key).map TypeDecl.id := by
  -- the latest registration wins, so the induction takes the types from the end
  induction types using List.reverseRecOn with
  | nil => rfl
  | append_singleton types t ih =>
    cases hkey : t.qualifiedName.key? with
    | none => simpa [registrations, hkey] using ih
    | some k =>
      by_cases heq : key = k
      · simp [registrations, hkey, heq]
      · have hne : ¬ k = key := fun h => heq h.symm
        have hbeq : (key == k) = false := by simpa using heq
        simpa [registrations, hkey, hne, hbeq, List.lookup_cons] using ih

/-- What is registered for a name is the id of a type of that name. -/
theorem Indexed.exists_of_lookup (h : g.Indexed) {key : Key} (hid : g.names.lookup key = some id) :
    ∃ t ∈ g.typeDecls, t.qualifiedName.key? = some key ∧ t.id = id := by
  rw [show g.names = _ from h, lookup_registrations, Option.map_eq_some_iff] at hid
  obtain ⟨t, ht, hid⟩ := hid
  exact ⟨t, List.mem_reverse.1 (List.mem_of_find?_eq_some ht), by simpa using List.find?_some ht, hid⟩

/-- A name leads to the last type of that name. -/
theorem typeNamed?_eq_find? (hdecl : g.Declared) (hindex : g.Indexed) (key : Key) :
    g.typeNamed? key =
      (g.typeDecls.reverse.find? fun t => t.qualifiedName.key? = some key).map .typeDecl := by
  rw [typeNamed?, show g.names = _ from hindex, lookup_registrations]
  cases hfind : g.typeDecls.reverse.find? fun t => t.qualifiedName.key? = some key with
  | none => rfl
  | some t =>
    have hmem : t ∈ g.typeDecls := List.mem_reverse.1 (List.mem_of_find?_eq_some hfind)
    have hd := hdecl.mem_typeDecls_iff.1 hmem
    obtain ⟨n, hn, -⟩ := Option.bind_eq_some_iff.1 hd
    have hne : t.id ≠ "" := id_of_node? hn ▸ hdecl.nonempty n (mem_of_node? hn)
    simp only [Option.map_some, if_neg hne, hd]

/-! ### Graphs of documents -/

/-- Every node declares something under its own id, every edge fits, and the names lead to the
types. -/
structure WellFormed (g : SymbolGraph) : Prop where
  declared : g.Declared
  indexed : g.Indexed
  fitting : ∀ e ∈ g.edges, g.Fits e

theorem WellFormed.empty : WellFormed {} where
  declared := .empty
  indexed := rfl
  fitting := by simp

/-- A declaration under a new id keeps a graph well-formed. -/
theorem WellFormed.insert (h : g.WellFormed) (hnew : g.hasNode d.id = false) (hne : d.id ≠ "") :
    (g.insert d).WellFormed where
  declared := h.declared.insert hne
  indexed := h.indexed.insert hnew
  fitting e he := (h.fitting e he).insert_of_new hnew

/-- An edge that fits keeps a graph well-formed. -/
theorem WellFormed.connect (h : g.WellFormed) (hfit : g.Fits e) : (g.connect e).WellFormed where
  declared := h.declared.connect hfit.hasNode_source hfit.hasNode_target
  indexed := h.indexed.connect hfit.hasNode_source hfit.hasNode_target
  fitting e' he' := by
    rw [edges_connect, List.mem_append, List.mem_singleton] at he'
    rcases he' with hold | rfl
    · exact (h.fitting e' hold).connect
    · exact hfit.connect

/-- Every node declares something under its own id, and every edge fits, apart from those to
supertypes. -/
structure Sound (g : SymbolGraph) : Prop where
  declared : g.Declared
  fitting : ∀ e ∈ g.edges, e.kind.isSupertype = false → g.Fits e

theorem WellFormed.sound (h : g.WellFormed) : g.Sound where
  declared := h.declared
  fitting e he _ := h.fitting e he

theorem Sound.connect (h : g.Sound) (hfit : g.Fits e) : (g.connect e).Sound where
  declared := h.declared.connect hfit.hasNode_source hfit.hasNode_target
  fitting e' he' hkind := by
    rw [edges_connect, List.mem_append, List.mem_singleton] at he'
    rcases he' with hold | rfl
    · exact (h.fitting e' hold hkind).connect
    · exact hfit.connect

/-! ### Ends and keys -/

/-- The ends of every edge have come up. -/
def Closed (g : SymbolGraph) : Prop :=
  ∀ e ∈ g.edges, g.hasNode e.source = true ∧ g.hasNode e.target = true

theorem Closed.empty : Closed {} := by
  intro e he
  cases he

theorem Closed.insert (h : g.Closed) (d : Declaration) : (g.insert d).Closed := by
  intro e he
  obtain ⟨hs, ht⟩ := h e he
  simp [hasNode_insert, hs, ht]

/-- The ends of an edge come up with it. -/
theorem Closed.connect (h : g.Closed) (e : Edge) : (g.connect e).Closed := by
  intro e' he'
  rw [edges_connect, List.mem_append, List.mem_singleton] at he'
  rcases he' with hold | rfl
  · obtain ⟨hs, ht⟩ := h e' hold
    simp [hasNode_connect, hs, ht]
  · simp [hasNode_connect]

theorem WellFormed.closed (h : g.WellFormed) : g.Closed := fun e he =>
  ⟨(h.fitting e he).hasNode_source, (h.fitting e he).hasNode_target⟩

/-- The name of every type is a key. -/
def Keyed (g : SymbolGraph) : Prop :=
  ∀ id t, g.declaration? id = some (.typeDecl t) → t.qualifiedName.key?.isSome = true

theorem Keyed.empty : Keyed {} := by
  intro id t ht
  cases ht

theorem Keyed.insert (h : g.Keyed) (hd : registrable d = .ok ()) : (g.insert d).Keyed := by
  intro id t ht
  rw [declaration?_insert] at ht
  split at ht
  · cases ht
    by_contra hkey
    simp [registrable, Declaration.qualifiedName?, hkey] at hd
  · exact h id t ht

theorem Keyed.connect (h : g.Keyed) (e : Edge) : (g.connect e).Keyed := by
  intro id t ht
  rw [declaration?_connect] at ht
  exact h id t ht

theorem Declared.keyed (h : g.Declared)
    (hnames : ∀ t ∈ g.typeDecls, t.qualifiedName.isText = true) : g.Keyed := by
  intro id t ht
  have hid : t.id = id := h.id_of_declaration? ht
  have hname := hnames t (h.mem_typeDecls_iff.2 (hid.symm ▸ ht))
  cases hq : t.qualifiedName with
  | str q => rfl
  | _ => simp [hq, Value.isText] at hname

end KotlinPreferences.SymbolGraph
