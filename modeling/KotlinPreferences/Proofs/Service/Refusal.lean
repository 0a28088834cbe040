import KotlinPreferences.Proofs.Document.Graph
import KotlinPreferences.Service

/-!
# Which documents are refused

A document that cannot be read is malformed, and the service says so. At some places, though, a value
is used before it is known to be of the right shape: the kind of a node, its attributes, the kind
and the qualified name of a type, and the type of an edge. Reading fails there too, but not with a
malformation, and the failure goes through the service.

* `Document.Misused`, `Document.MisusedIn`: those places, in a node and in a document;
* `Document.read_eq_error_iff`: reading fails at the first node or edge that cannot be added;
* `Document.misusedIn_iff`: every other failure is a malformation;
* `Service.withGraph_outcome`: what the service answers to a document;
* `Document.numberedKind_misused`: a type whose kind is a number.
-/

namespace KotlinPreferences

namespace Document

variable {g : SymbolGraph} {v node : Value} {id : Text} {failure : Failure}

/-- A failure that finds something malformed. -/
def IsMalformed (failure : Failure) : Prop := ∃ what, failure = .malformed what

theorem IsMalformed.family (h : IsMalformed failure) : failure.family = .badValue := by
  obtain ⟨what, rfl⟩ := h
  rfl

/-- A step that fails only where something is malformed. -/
def Refuses {α : Type} (x : Except Failure α) : Prop :=
  ∀ failure, x = .error failure → IsMalformed failure

namespace Refuses

variable {α β : Type}

theorem lift (x : Except Malformed α) : Refuses (lift x) := by
  intro failure h
  obtain ⟨what, -, hwhat⟩ := lift_eq_error_iff.1 h
  exact ⟨what, hwhat⟩

theorem pure (a : α) : Refuses (pure a) := fun _ h => nomatch h

theorem bind {x : Except Failure α} {f : α → Except Failure β} (hx : Refuses x)
    (hf : ∀ a, Refuses (f a)) : Refuses (x >>= f) := by
  intro failure h
  rcases bind_eq_error_iff.1 h with hfail | ⟨a, -, hfail⟩
  · exact hx failure hfail
  · exact hf a failure hfail

theorem map {x : Except Failure α} (f : α → β) (hx : Refuses x) : Refuses (f <$> x) :=
  fun failure h => hx failure (map_eq_error_iff.1 h)

end Refuses

/-! ### Attributes -/

theorem attributes_of_error (h : attributes v = .error failure) :
    v.truthy = true ∧ (∀ members, v ≠ .obj members) ∧ failure = .wrongShape := by
  unfold attributes at h
  split at h
  · cases h
  · rename_i hshape
    split at h
    · rename_i htruthy
      cases h
      exact ⟨htruthy, hshape, rfl⟩
    · cases h

theorem attributes_of_not_object (htruthy : v.truthy = true) (hshape : ∀ members, v ≠ .obj members) :
    attributes v = .error .wrongShape := by
  cases v with
  | obj members => exact absurd rfl (hshape members)
  | _ => exact if_pos htruthy

/-- Attributes that give a name are an object. -/
theorem eq_obj_of_name {members : Value.Members} {given : Text}
    (h : attributes v = .ok members) (hname : name id members = .ok given) : v = .obj members := by
  unfold attributes at h
  split at h
  · cases h
    rfl
  · split at h
    · cases h
    · cases h
      cases hname

/-- The kind of a type that is read neither as a kind nor as a malformation. -/
theorem typeKind_of_error (h : typeKind id v = .error failure) : IsMalformed failure ∨
    v.truthy = true ∧ v.isText = false ∧ failure = .wrongShape := by
  unfold typeKind at h
  split at h
  · rename_i htruthy
    split at h
    · exact .inl ⟨_, (orFail_eq_error_iff.1 h).2.symm⟩
    · rename_i hshape
      cases h
      refine .inr ⟨htruthy, ?_, rfl⟩
      cases v with
      | str s => exact absurd rfl (hshape s)
      | _ => rfl
  · cases h

theorem typeKind_of_not_text (htruthy : v.truthy = true) (htext : v.isText = false) :
    typeKind id v = .error .wrongShape := by
  unfold typeKind
  rw [if_pos htruthy]
  split
  · cases htext
  · rfl

/-- The qualified name of a type is no key where a document gives a list or an object for it. -/
theorem key?_qualifiedName_eq_none_iff (attrs : Value.Members) (name : Text) :
    (qualifiedName attrs name).key? = none ↔
      (Value.member attrs "qualified_name").truthy = true ∧
        (Value.member attrs "qualified_name").key? = none := by
  simp only [qualifiedName]
  split
  · rename_i htruthy
    exact (and_iff_right htruthy).symm
  · rename_i hfalsy
    split <;> simp [hfalsy]

theorem names_of_typeDecl {attrs : Value.Members} {t : TypeDecl} (h : typeDecl id attrs = .ok t) :
    name id attrs = .ok t.name ∧ t.qualifiedName = qualifiedName attrs t.name := by
  simp only [typeDecl, bind_eq_ok_iff, lift_eq_ok_iff, pure_eq_ok, Except.ok.injEq] at h
  obtain ⟨given, hname, _, _, _, _, rfl⟩ := h
  exact ⟨hname, rfl⟩

/-! ### Nodes -/

/-- A node of a new id. -/
def Named (g : SymbolGraph) (node : Value) (members : Value.Members) (id : Text) : Prop :=
  node = .obj members ∧ Value.member members "id" = .str id ∧ id ≠ "" ∧ g.hasNode id = false

/-- A node of a new id and a known kind, with its attributes. -/
def Opens (g : SymbolGraph) (node : Value) (id : Text) (kind : NodeKind) (attrs : Value) : Prop :=
  ∃ members, Named g node members id ∧ Value.member members "kind" = .str kind.name ∧
    Value.member members "attrs" = attrs

/-- Where a node is used as something that it is not. -/
inductive Misused (g : SymbolGraph) (node : Value) : Failure → Prop
  /-- The kind of the node is a list or an object, and it is looked up all the same. -/
  | nodeKind {members : Value.Members} {id : Text} (hnamed : Named g node members id)
      (hkey : (Value.member members "kind").key? = none) : Misused g node .unusableKey
  /-- The attributes are no object. -/
  | attributes {id : Text} {kind : NodeKind} {attrs : Value} (hopens : Opens g node id kind attrs)
      (htruthy : attrs.truthy = true) (hshape : ∀ members, attrs ≠ .obj members) :
      Misused g node .wrongShape
  /-- The kind of a type is no text. -/
  | typeKind {id given : Text} {attrs : Value.Members}
      (hopens : Opens g node id .typeDecl (.obj attrs)) (hname : name id attrs = .ok given)
      (htruthy : (Value.member attrs "kind").truthy = true)
      (htext : (Value.member attrs "kind").isText = false) : Misused g node .wrongShape
  /-- The qualified name of a type is a list or an object. -/
  | qualifiedName {id : Text} {attrs : Value.Members} {t : TypeDecl}
      (hopens : Opens g node id .typeDecl (.obj attrs)) (htype : typeDecl id attrs = .ok t)
      (htruthy : (Value.member attrs "qualified_name").truthy = true)
      (hkey : (Value.member attrs "qualified_name").key? = none) : Misused g node .unusableKey

theorem freshId_of_named {members : Value.Members} (h : Named g node members id) :
    freshId g node members = .ok id := by
  obtain ⟨-, hid, hne, hnew⟩ := h
  simp [freshId, hid, hne, hnew]

/-- A value that names no kind is found malformed, unless it cannot be looked up. -/
theorem of_lookup_error {what : Malformed}
    (h : (if v.key?.isSome then Failure.malformed what else .unusableKey) = failure) :
    IsMalformed failure ∨ v.key? = none ∧ failure = .unusableKey := by
  split at h
  · exact .inl ⟨what, h.symm⟩
  · rename_i hkey
    exact .inr ⟨by simpa using hkey, h.symm⟩

theorem nodeKind_of_error (h : nodeKind id v = .error failure) :
    IsMalformed failure ∨ v.key? = none ∧ failure = .unusableKey := by
  unfold nodeKind at h
  split at h
  · exact .inl ⟨_, (orFail_eq_error_iff.1 h).2.symm⟩
  · exact of_lookup_error (Except.error.inj h)

theorem nodeKind_of_key?_eq_none (h : v.key? = none) : nodeKind id v = .error .unusableKey := by
  cases v with
  | arr items => rfl
  | obj members => rfl
  | _ => cases h

theorem nodeDeclaration_of_opens {kind : NodeKind} {attrs : Value}
    (h : Opens g node id kind attrs) : nodeDeclaration g node = declaration kind id attrs := by
  obtain ⟨members, hnamed, hkind, rfl⟩ := h
  rw [hnamed.1]
  simp only [nodeDeclaration, freshId_of_named (hnamed.1 ▸ hnamed), lift, Except.mapError, ok_bind,
    hkind, nodeKind, NodeKind.ofName?_name, orFail_some]

/-- A type is read unless something in it is malformed, or its kind is no text. -/
theorem typeDecl_of_error {attrs : Value.Members} (h : typeDecl id attrs = .error failure) :
    IsMalformed failure ∨ ∃ given, name id attrs = .ok given ∧
      (Value.member attrs "kind").truthy = true ∧ (Value.member attrs "kind").isText = false ∧
      failure = .wrongShape := by
  rw [typeDecl, bind_eq_error_iff] at h
  rcases h with hname | ⟨given, hname, h⟩
  · exact .inl (Refuses.lift _ _ hname)
  rw [bind_eq_error_iff] at h
  rcases h with hkind | ⟨kind, -, h⟩
  · rcases typeKind_of_error hkind with hmalformed | hshape
    · exact .inl hmalformed
    · exact .inr ⟨given, lift_eq_ok_iff.1 hname, hshape⟩
  rw [bind_eq_error_iff] at h
  rcases h with hentries | ⟨entries, -, h⟩
  · exact .inl (Refuses.lift _ _ hentries)
  · cases h

theorem refuses_property (id : Text) (attrs : Value.Members) : Refuses (property id attrs) :=
  (Refuses.lift _).bind fun _ => (Refuses.lift _).bind fun _ => (Refuses.lift _).bind fun _ =>
    .pure _

theorem refuses_function (id : Text) (attrs : Value.Members) : Refuses (function id attrs) :=
  (Refuses.lift _).bind fun _ => (Refuses.lift _).bind fun _ => .pure _

theorem refuses_parameter (id : Text) (attrs : Value.Members) : Refuses (parameter id attrs) :=
  (Refuses.lift _).bind fun _ => (Refuses.lift _).bind fun _ => .pure _

/-- The declaration of a node is read unless the node is malformed or misused. -/
theorem misused_of_nodeDeclaration (h : nodeDeclaration g node = .error failure) :
    IsMalformed failure ∨ Misused g node failure := by
  unfold nodeDeclaration at h
  split at h
  · rename_i members
    rw [bind_eq_error_iff] at h
    rcases h with hid | ⟨id, hid, h⟩
    · exact .inl (Refuses.lift _ _ hid)
    have hnamed : Named g (.obj members) members id := ⟨rfl, freshId_cases (lift_eq_ok_iff.1 hid)⟩
    rw [bind_eq_error_iff] at h
    rcases h with hkind | ⟨kind, hkind, h⟩
    · rcases nodeKind_of_error hkind with hmalformed | ⟨hkey, rfl⟩
      · exact .inl hmalformed
      · exact .inr (.nodeKind hnamed hkey)
    have hopens : Opens g (.obj members) id kind (Value.member members "attrs") :=
      ⟨members, hnamed, nodeKind_cases hkind, rfl⟩
    rw [declaration, bind_eq_error_iff] at h
    rcases h with hattrs | ⟨attrs, hattrs, h⟩
    · obtain ⟨htruthy, hshape, rfl⟩ := attributes_of_error hattrs
      exact .inr (.attributes hopens htruthy hshape)
    cases kind with
    | typeDecl =>
      rcases typeDecl_of_error (map_eq_error_iff.1 h) with hmalformed | ⟨given, hname, hrest⟩
      · exact .inl hmalformed
      · obtain ⟨htruthy, htext, rfl⟩ := hrest
        -- the attributes hold a name, so they are not the empty ones that stand for missing ones
        rw [eq_obj_of_name hattrs hname] at hopens
        exact .inr (.typeKind hopens hname htruthy htext)
    | property => exact .inl ((refuses_property id attrs).map _ failure h)
    | function => exact .inl ((refuses_function id attrs).map _ failure h)
    | parameter => exact .inl ((refuses_parameter id attrs).map _ failure h)
  · cases h
    exact .inl ⟨_, rfl⟩

theorem opens_of_nodeDeclaration {d : Declaration} (h : nodeDeclaration g node = .ok d) :
    ∃ attrs, Opens g node d.id d.kind attrs ∧ declaration d.kind d.id attrs = .ok d := by
  obtain ⟨⟨members, hobj, hid, hkind, hd⟩, hne, hnew⟩ := nodeDeclaration_eq_ok_iff.1 h
  exact ⟨_, ⟨members, ⟨hobj, hid, hne, hnew⟩, hkind, rfl⟩, hd⟩

theorem registrable_of_error {d : Declaration} (h : SymbolGraph.registrable d = .error failure) :
    ∃ t, d = .typeDecl t ∧ t.qualifiedName.key? = none ∧ failure = .unusableKey := by
  cases d with
  | typeDecl t =>
    simp only [SymbolGraph.registrable, Declaration.qualifiedName?] at h
    split at h
    · cases h
    · rename_i hkey
      cases h
      exact ⟨t, rfl, by simpa using hkey, rfl⟩
  | property | function | parameter => cases h

/-- A node is added unless it is malformed or misused. -/
theorem misused_of_addNode (h : addNode g node = .error failure) :
    IsMalformed failure ∨ Misused g node failure := by
  rw [addNode, bind_eq_error_iff] at h
  rcases h with hd | ⟨d, hd, h⟩
  · exact misused_of_nodeDeclaration hd
  rw [bind_eq_error_iff] at h
  rcases h with hname | ⟨_, -, h⟩
  · obtain ⟨t, rfl, hkey, rfl⟩ := registrable_of_error hname
    obtain ⟨attrs, hopens, hattrs⟩ := opens_of_nodeDeclaration hd
    obtain ⟨members, hmembers, hattrs⟩ := bind_eq_ok_iff.1 hattrs
    obtain ⟨t', htype, ht'⟩ := map_eq_ok_iff.1 hattrs
    cases ht'
    obtain ⟨hgiven, hqualified⟩ := names_of_typeDecl htype
    rw [hqualified, key?_qualifiedName_eq_none_iff] at hkey
    rw [eq_obj_of_name hmembers hgiven] at hopens
    exact .inr (.qualifiedName hopens htype hkey.1 hkey.2)
  · cases h

/-- A misused node is not added. -/
theorem addNode_of_misused (h : Misused g node failure) : addNode g node = .error failure := by
  cases h with
  | nodeKind hnamed hkey =>
    rename_i members id
    obtain rfl := hnamed.1
    have hkind : ∀ id, nodeKind id (Value.member members "kind") = .error .unusableKey :=
      fun id => nodeKind_of_key?_eq_none hkey
    simp only [addNode, nodeDeclaration, freshId_of_named hnamed, lift, Except.mapError, ok_bind,
      hkind, error_bind]
  | attributes hopens htruthy hshape =>
    rw [addNode, nodeDeclaration_of_opens hopens, declaration,
      attributes_of_not_object htruthy hshape]
    rfl
  | typeKind hopens hname htruthy htext =>
    rw [addNode, nodeDeclaration_of_opens hopens]
    simp only [declaration, attributes, ok_bind, typeDecl, hname, lift, Except.mapError,
      typeKind_of_not_text htruthy htext, error_bind]
    rfl
  | qualifiedName hopens htype htruthy hkey =>
    rename_i id attrs t
    have hname : t.qualifiedName.key? = none := by
      rw [(names_of_typeDecl htype).2, key?_qualifiedName_eq_none_iff]
      exact ⟨htruthy, hkey⟩
    rw [addNode, nodeDeclaration_of_opens hopens]
    have hd : declaration .typeDecl id (.obj attrs) = .ok (.typeDecl t) := by
      simp only [declaration, attributes, ok_bind, htype]
      rfl
    rw [hd]
    simp only [ok_bind, SymbolGraph.registrable, Declaration.qualifiedName?, hname]
    rfl

/-! ### Edges -/

/-- An edge whose type is a list or an object, and is looked up all the same. -/
def MisusedEdge (v : Value) : Prop :=
  ∃ members, v = .obj members ∧ (Value.member members "type").key? = none

theorem edgeKind_of_error (h : edgeKind v = .error failure) :
    IsMalformed failure ∨ v.key? = none ∧ failure = .unusableKey := by
  unfold edgeKind at h
  split at h
  · exact .inl ⟨_, (orFail_eq_error_iff.1 h).2.symm⟩
  · exact of_lookup_error (Except.error.inj h)

theorem refuses_joined (g : SymbolGraph) (kind : EdgeKind) (source target : Value) :
    Refuses (joined g kind source target) := by
  intro failure h
  unfold joined at h
  split at h
  · split at h
    · simp only at h
      split at h
      · split at h
        · cases h
        · cases h
          exact ⟨_, rfl⟩
      · cases h
    · cases h
      exact ⟨_, rfl⟩
  · cases h
    exact ⟨_, rfl⟩

/-- An edge is added unless it is malformed or misused. -/
theorem misusedEdge_of_addEdge (h : addEdge g v = .error failure) :
    IsMalformed failure ∨ MisusedEdge v ∧ failure = .unusableKey := by
  rw [addEdge, bind_eq_error_iff] at h
  rcases h with hedge | ⟨e, -, h⟩
  · unfold edge at hedge
    split at hedge
    · rename_i members
      rw [bind_eq_error_iff] at hedge
      rcases hedge with hkind | ⟨kind, -, hjoined⟩
      · rcases edgeKind_of_error hkind with hmalformed | ⟨hkey, hfailure⟩
        · exact .inl hmalformed
        · exact .inr ⟨⟨members, rfl, hkey⟩, hfailure⟩
      · exact .inl (refuses_joined _ _ _ _ failure hjoined)
    · cases hedge
      exact .inl ⟨_, rfl⟩
  · cases h

theorem MisusedEdge.addEdge_eq (h : MisusedEdge v) : addEdge g v = .error .unusableKey := by
  obtain ⟨members, rfl, hkey⟩ := h
  have hkind : edgeKind (Value.member members "type") = .error .unusableKey := by
    cases htype : Value.member members "type" with
    | arr items => rfl
    | obj members => rfl
    | _ =>
      rw [htype] at hkey
      cases hkey
  rw [addEdge, edge, hkind]
  rfl

/-! ### Documents -/

/-- Reading a document comes to a node of it with a graph. -/
def ComesToNode (v : Value) (g : SymbolGraph) (node : Value) : Prop :=
  ∃ done left edges, parts v = .ok (done ++ node :: left, edges) ∧ done.foldlM addNode {} = .ok g

/-- Reading a document comes to an edge of it with a graph. -/
def ComesToEdge (v : Value) (g : SymbolGraph) (e : Value) : Prop :=
  ∃ nodes g₀ done left, parts v = .ok (nodes, done ++ e :: left) ∧
    nodes.foldlM addNode {} = .ok g₀ ∧ done.foldlM addEdge g₀.withBuiltins = .ok g

/-- Reading a document fails where its parts are malformed, or at the first node or edge that
cannot be added. -/
theorem read_eq_error_iff : read v = .error failure ↔
    (∃ what, parts v = .error what ∧ failure = .malformed what) ∨
    (∃ g node, ComesToNode v g node ∧ addNode g node = .error failure) ∨
    ∃ g e, ComesToEdge v g e ∧ addEdge g e = .error failure := by
  simp only [read, bind_eq_error_iff, lift_eq_error_iff, lift_eq_ok_iff, foldlM_eq_error_iff]
  constructor
  · rintro (hparts | ⟨⟨nodes, edges⟩, hparts, hnodes | ⟨g₀, hnodes, hedges⟩⟩)
    · exact .inl hparts
    · obtain ⟨done, node, left, g, rfl, hdone, hnode⟩ := hnodes
      exact .inr (.inl ⟨g, node, ⟨done, left, edges, hparts, hdone⟩, hnode⟩)
    · obtain ⟨done, e, left, g, rfl, hdone, he⟩ := hedges
      exact .inr (.inr ⟨g, e, ⟨nodes, g₀, done, left, hparts, hnodes, hdone⟩, he⟩)
  · rintro (hparts | ⟨g, node, ⟨done, left, edges, hparts, hdone⟩, hnode⟩ |
      ⟨g, e, ⟨nodes, g₀, done, left, hparts, hnodes, hdone⟩, he⟩)
    · exact .inl hparts
    · exact .inr ⟨_, hparts, .inl ⟨done, node, left, g, rfl, hdone, hnode⟩⟩
    · exact .inr ⟨_, hparts, .inr ⟨g₀, hnodes, done, e, left, g, rfl, hdone, he⟩⟩

/-- Where a document is used as something that it is not: at the first node or edge that cannot be
added. -/
inductive MisusedIn (v : Value) : Failure → Prop
  | node {g : SymbolGraph} {node : Value} {failure : Failure} (hcomes : ComesToNode v g node)
      (hmisused : Misused g node failure) : MisusedIn v failure
  | edge {g : SymbolGraph} {e : Value} (hcomes : ComesToEdge v g e) (hmisused : MisusedEdge e) :
      MisusedIn v .unusableKey

theorem misusedIn_of_read (h : read v = .error failure) :
    IsMalformed failure ∨ MisusedIn v failure := by
  rcases read_eq_error_iff.1 h with ⟨what, -, rfl⟩ | ⟨g, node, hcomes, hnode⟩ | ⟨g, e, hcomes, he⟩
  · exact .inl ⟨what, rfl⟩
  · exact (misused_of_addNode hnode).imp_right (.node hcomes)
  · rcases misusedEdge_of_addEdge he with hmalformed | ⟨hmisused, rfl⟩
    · exact .inl hmalformed
    · exact .inr (.edge hcomes hmisused)

theorem Misused.family_ne (h : Misused g node failure) : failure.family ≠ .badValue := by
  cases h <;> decide

theorem MisusedIn.family_ne (h : MisusedIn v failure) : failure.family ≠ .badValue := by
  cases h with
  | node _ hmisused => exact hmisused.family_ne
  | edge => decide

theorem MisusedIn.read_eq (h : MisusedIn v failure) : read v = .error failure := by
  rw [read_eq_error_iff]
  cases h with
  | node hcomes hmisused => exact .inr (.inl ⟨_, _, hcomes, addNode_of_misused hmisused⟩)
  | edge hcomes hmisused => exact .inr (.inr ⟨_, _, hcomes, hmisused.addEdge_eq⟩)

/-- The failures that find nothing malformed are those of a misused document. -/
theorem misusedIn_iff :
    MisusedIn v failure ↔ read v = .error failure ∧ failure.family ≠ .badValue := by
  constructor
  · intro h
    exact ⟨h.read_eq, h.family_ne⟩
  · rintro ⟨hread, hfamily⟩
    exact (misusedIn_of_read hread).resolve_left fun hmalformed => hfamily hmalformed.family

end Document

namespace Service

open Document

/-- **What the service answers to a document.** It answers from the graph of the document, or it
refuses the document as malformed, with a text that says what is wrong, or the document is misused:
then, and only then, reading fails with something else than a malformation, and that failure goes
through the service. -/
theorem withGraph_outcome {α : Type} (v : Value) (answer : SymbolGraph → Except Failure (Reply α)) :
    ((∃ g, read v = .ok g ∧ withGraph v answer = answer g) ∨
      (∃ what, read v = .error (.malformed what) ∧
        withGraph v answer = .ok (.refused 400 ("Invalid CIR: " ++ what.message))) ∨
      ∃ failure, MisusedIn v failure ∧ withGraph v answer = .error failure) ∧
    ∀ failure, MisusedIn v failure ↔ read v = .error failure ∧ failure.family ≠ .badValue := by
  refine ⟨?_, fun failure => misusedIn_iff⟩
  cases hread : read v with
  | ok g => exact .inl ⟨g, rfl, by rw [withGraph, hread]⟩
  | error failure =>
    rcases misusedIn_of_read hread with ⟨what, rfl⟩ | hmisused
    · refine .inr (.inl ⟨what, rfl, ?_⟩)
      rw [withGraph, hread]
      exact if_pos rfl
    · refine .inr (.inr ⟨failure, hmisused, ?_⟩)
      rw [withGraph, hread]
      exact if_neg hmisused.family_ne

end Service

namespace Document

/-- A document with a type whose kind is a number. -/
def numberedKind : Value :=
  .obj [("nodes", .arr [Sample.node "a" "TypeDecl" [("name", .str "A"), ("kind", .int 5)]]),
    ("edges", .arr [])]

/-- It is not refused as malformed. -/
theorem numberedKind_misused : ∃ failure, read numberedKind = .error failure ∧
    failure.family ≠ .badValue ∧
    Service.symbols (.obj [("cir", numberedKind)]) = .error failure :=
  ⟨.wrongShape, rfl, by decide, rfl⟩

end Document

end KotlinPreferences
