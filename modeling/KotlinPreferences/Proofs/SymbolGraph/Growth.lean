import KotlinPreferences.SymbolGraph
import Mathlib.Data.List.Basic

/-!
# How a symbol graph grows

What `insert` and `connect` do to a graph, said through the views by which a graph is read: the node
and the declaration of an id, the edges, and the declarations of types.

* `insertAt`: a declaration at the node of any id;
* `node?_insert`, `node?_connect`, `declaration?_insert`, `declaration?_connect`: the node of an id
  after the graph has grown;
* `nodes_insert_of_new`, `nodes_connect`: nodes come up behind all others, and only with their ids;
* `typeDecls_insert_of_new`: so do the declarations of types.
-/

namespace KotlinPreferences.SymbolGraph

variable {g : SymbolGraph} {d : Declaration} {e : Edge} {id : Text}

/-! ### Nodes of a list -/

/-- Giving another declaration to the nodes of one id leaves the search for an id alone. -/
theorem find?_map_at {nodes : List Node} {a : Text} {declaration : Option Declaration} :
    (nodes.map fun n => if n.id == a then ⟨n.id, declaration⟩ else n).find? (fun n => n.id == id) =
      (nodes.find? fun n => n.id == id).map fun n =>
        if n.id == a then ⟨n.id, declaration⟩ else n := by
  rw [List.find?_map]
  congr 2
  funext n
  simp only [Function.comp_apply]
  split <;> rfl

theorem hasNode_iff : g.hasNode id = true ↔ id ∈ g.nodes.map Node.id := by
  simp [hasNode, node?]

theorem hasNode_eq_any : g.hasNode id = g.nodes.any fun n => n.id == id := by
  rw [Bool.eq_iff_iff, hasNode_iff]
  simp

theorem node?_eq_none_of_not_hasNode (h : g.hasNode id = false) : g.node? id = none := by
  simpa [hasNode] using h

/-- The node found for an id has that id. -/
theorem id_of_node? {n : Node} (h : g.node? id = some n) : n.id = id := by
  have := List.find?_some h
  simpa using this

theorem mem_of_node? {n : Node} (h : g.node? id = some n) : n ∈ g.nodes := List.mem_of_find?_eq_some h

/-! ### Inserting -/

theorem nodes_insert_of_hasNode (h : g.hasNode d.id = true) :
    (g.insert d).nodes = g.nodes.map fun n => if n.id == d.id then ⟨n.id, some d⟩ else n := by
  rw [hasNode_eq_any] at h
  simp only [insert, placed, if_pos h]

theorem nodes_insert_of_new (h : g.hasNode d.id = false) :
    (g.insert d).nodes = g.nodes ++ [⟨d.id, some d⟩] := by
  rw [hasNode_eq_any] at h
  simp only [insert, placed, h, Bool.false_eq_true, if_false]

theorem ids_insert_of_hasNode (h : g.hasNode d.id = true) :
    (g.insert d).nodes.map Node.id = g.nodes.map Node.id := by
  rw [nodes_insert_of_hasNode h, List.map_map]
  congr 1
  funext n
  simp only [Function.comp_apply]
  split <;> rfl

theorem mem_nodes_insert {n : Node} (hn : n ∈ (g.insert d).nodes) :
    n = ⟨d.id, some d⟩ ∨ n ∈ g.nodes := by
  by_cases h : g.hasNode d.id = true
  · rw [nodes_insert_of_hasNode h, List.mem_map] at hn
    obtain ⟨m, hm, rfl⟩ := hn
    split
    · rename_i hid
      rw [beq_iff_eq.1 hid]
      exact .inl rfl
    · exact .inr hm
  · rw [nodes_insert_of_new (by simpa using h), List.mem_append, List.mem_singleton] at hn
    exact hn.symm

/-- The graph with a declaration at the node of an id, which may be another one than the id of the
declaration itself. -/
def insertAt (g : SymbolGraph) (id : Text) (d : Declaration) : SymbolGraph :=
  { g with
    nodes :=
      if g.hasNode id then g.nodes.map fun n => if n.id == id then ⟨n.id, some d⟩ else n
      else g.nodes ++ [⟨id, some d⟩]
    names :=
      match nameKey? d with
      | some key => (key, id) :: g.names
      | none => g.names }

theorem insertAt_id : g.insertAt d.id d = g.insert d := by
  unfold insertAt
  rw [hasNode_eq_any]
  rfl

/-- Only the name of a type is a key. -/
theorem nameKey?_eq_str_iff {q : Text} :
    nameKey? d = some (.str q) ↔ ∃ t, d = .typeDecl t ∧ t.qualifiedName = .str q := by
  cases d <;> simp [nameKey?, Declaration.qualifiedName?, Value.key?_eq_str_iff]

theorem node?_insertAt {a : Text} :
    (g.insertAt a d).node? id = if id = a then some ⟨a, some d⟩ else g.node? id := by
  unfold node? insertAt
  split
  · rename_i hin
    rw [find?_map_at, ← node?]
    by_cases hid : id = a
    · obtain ⟨n, hn⟩ := Option.isSome_iff_exists.1 hin
      subst hid
      simp [hn, id_of_node? hn]
    · rw [if_neg hid]
      cases hn : g.node? id with
      | none => rfl
      | some n => simp [id_of_node? hn, hid]
  · rename_i hnew
    rw [List.find?_append, ← node?]
    by_cases hid : id = a
    · subst hid
      rw [node?_eq_none_of_not_hasNode (by simpa using hnew)]
      simp
    · have hne : ¬ a = id := fun h => hid h.symm
      simp [hid, hne]

theorem node?_insert :
    (g.insert d).node? id = if id = d.id then some ⟨d.id, some d⟩ else g.node? id := by
  rw [← insertAt_id, node?_insertAt]

theorem declaration?_insert :
    (g.insert d).declaration? id = if id = d.id then some d else g.declaration? id := by
  rw [declaration?, node?_insert]
  split
  · rfl
  · rfl

theorem hasNode_insert : (g.insert d).hasNode id = (decide (id = d.id) || g.hasNode id) := by
  rw [hasNode, node?_insert]
  by_cases h : id = d.id
  · simp [h]
  · simp [h, hasNode]

@[simp] theorem edges_insert : (g.insert d).edges = g.edges := rfl

theorem typeDecls_insert_of_new (h : g.hasNode d.id = false) :
    (g.insert d).typeDecls = g.typeDecls ++ d.typeDecl?.toList := by
  rw [typeDecls, nodes_insert_of_new h, List.filterMap_append, ← typeDecls]
  cases hd : d.typeDecl? <;> simp [hd]

/-! ### Connecting -/

theorem mentioned_of_mem {nodes : List Node} (h : id ∈ nodes.map Node.id) :
    mentioned nodes id = nodes := by
  have hany : (nodes.any fun n => n.id == id) = true := by simpa using h
  simp only [mentioned, if_pos hany]

theorem find?_mentioned {nodes : List Node} {a : Text} :
    (mentioned nodes a).find? (fun n => n.id == id) =
      (nodes.find? fun n => n.id == id).or (if id = a then some ⟨a, none⟩ else none) := by
  unfold mentioned
  split
  · rename_i hany
    by_cases hid : id = a
    · obtain ⟨n, hn⟩ := Option.isSome_iff_exists.1
        (List.find?_isSome.2 (List.any_eq_true.1 (hid ▸ hany)))
      rw [hn, Option.some_or]
    · simp [hid]
  · rw [List.find?_append]
    by_cases hid : id = a
    · simp [hid]
    · have hne : ¬ a = id := fun h => hid h.symm
      simp [hid, hne]

theorem node?_connect : (g.connect e).node? id =
    ((g.node? id).or (if id = e.source then some ⟨e.source, none⟩ else none)).or
      (if id = e.target then some ⟨e.target, none⟩ else none) := by
  simp only [node?, connect, find?_mentioned]

theorem hasNode_connect : (g.connect e).hasNode id =
    (g.hasNode id || decide (id = e.source) || decide (id = e.target)) := by
  rw [hasNode, node?_connect, hasNode]
  by_cases hs : id = e.source
  · simp [hs]
  · rw [if_neg hs]
    by_cases ht : id = e.target
    · simp [ht]
    · simp [hs, ht]

/-- An edge declares nothing. -/
@[simp] theorem declaration?_connect : (g.connect e).declaration? id = g.declaration? id := by
  rw [declaration?, node?_connect, declaration?]
  cases g.node? id with
  | some n => rfl
  | none =>
    -- whatever node comes up with the edge has no declaration
    by_cases hs : id = e.source
    · simp [hs]
    · rw [if_neg hs]
      by_cases ht : id = e.target
      · simp [ht]
      · simp [ht]

@[simp] theorem edges_connect : (g.connect e).edges = g.edges ++ [e] := rfl

@[simp] theorem names_connect : (g.connect e).names = g.names := rfl

theorem nodes_connect (hs : g.hasNode e.source = true) (ht : g.hasNode e.target = true) :
    (g.connect e).nodes = g.nodes := by
  rw [hasNode_iff] at hs ht
  simp only [connect, mentioned_of_mem hs, mentioned_of_mem ht]

/-- A declaration stands at a node of the graph. -/
theorem hasNode_of_declaration? (h : g.declaration? id = some d) : g.hasNode id = true := by
  obtain ⟨n, hn, -⟩ := Option.bind_eq_some_iff.1 h
  simp [hasNode, hn]

theorem declaration_of_declaration? (h : g.declaration? id = some d) : g.declaration id = .ok d := by
  obtain ⟨n, hn, hd⟩ := Option.bind_eq_some_iff.1 h
  simp [declaration, hn, hd]

theorem nodeKind_of_declaration? (h : g.declaration? id = some d) :
    g.nodeKind id = .ok (some d.kind) := by
  obtain ⟨n, hn, hd⟩ := Option.bind_eq_some_iff.1 h
  simp [nodeKind, hn, hd]

end KotlinPreferences.SymbolGraph
