import KotlinPreferences.Proofs.SymbolGraph.Growth
import Mathlib.Data.List.Induction

/-!
# Which type a name stands for

A type is registered under its name when it is added to a graph, and stays so. Nothing is taken back
when another declaration comes to stand at its node, so a name may stand for a declaration that does
not bear it. Here that is said by the history of a graph: by what was added to it, and in which order.

* `Addition`, `grown`: one way in which a graph grows, and the graph that comes of some of them;
* `Addition.declares?`, `Addition.registers?`: what an addition says about an id and about a name;
* `declaration?_grown`, `lookup_grown`: for an id the last declaration counts, for a name the last
  type of that name;
* `LastNamed`, `typeNamed?_of_last`: what a name stands for;
* `Agrees`: a name stands for a type that bears it, and for something if there is such a type;
* `agrees_iff`: when a name agrees, and `disagreeing_names`, which do not.
-/

namespace KotlinPreferences

namespace SymbolGraph

/-! ### Histories -/

/-- One way in which a graph grows. -/
inductive Addition where
  /-- A declaration comes to stand at the node of an id. -/
  | node (id : Text) (d : Declaration)
  | edge (e : Edge)

namespace Addition

/-- What an addition declares for an id. -/
def declares? (id : Text) : Addition → Option Declaration
  | node a d => if a = id then some d else none
  | edge _ => none

/-- The id at which an addition gives a type of some name. -/
def registers? (name : Text) : Addition → Option Text
  | node id d => if nameKey? d = some (.str name) then some id else none
  | edge _ => none

end Addition

/-- The graph after an addition. -/
def grow (g : SymbolGraph) : Addition → SymbolGraph
  | .node id d => g.insertAt id d
  | .edge e => g.connect e

/-- The graph that comes of some additions, the first of them to the empty graph. -/
def grown (history : List Addition) : SymbolGraph := history.foldl grow {}

variable {g : SymbolGraph} {a : Addition} {d : Declaration} {t : TypeDecl} {id name : Text}
  {history before after : List Addition}

theorem Addition.eq_node_of_declares? (h : a.declares? id = some d) : a = .node id d := by
  cases a with
  | node b _ =>
    simp only [declares?, Option.ite_none_right_eq_some, Option.some.injEq] at h
    rw [h.1, h.2]
  | edge _ => cases h

/-- A type of a name that is declared for an id registers that id under the name. -/
theorem Addition.registers?_of_declares? (h : a.declares? id = some (.typeDecl t))
    (hname : t.qualifiedName = .str name) : a.registers? name = some id := by
  rw [eq_node_of_declares? h, registers?, if_pos (nameKey?_eq_str_iff.2 ⟨t, rfl, hname⟩)]

/-! ### One addition after another -/

theorem declaration?_grow :
    (g.grow a).declaration? id = (a.declares? id).or (g.declaration? id) := by
  cases a with
  | node b d =>
    rw [grow, declaration?, node?_insertAt, Addition.declares?]
    by_cases h : id = b
    · simp [h]
    · have hne : ¬ b = id := fun heq => h heq.symm
      simp [h, hne, declaration?]
  | edge e => rw [grow, declaration?_connect, Addition.declares?, Option.none_or]

theorem lookup_grow :
    (g.grow a).names.lookup (.str name) = (a.registers? name).or (g.names.lookup (.str name)) := by
  cases a with
  | node b d =>
    rw [grow, insertAt, Addition.registers?]
    cases hkey : nameKey? d with
    | none => simp
    | some key =>
      by_cases h : key = .str name
      · simp [h]
      · have hne : (Key.str name == key) = false := by simpa using fun heq => h heq.symm
        simp [h, List.lookup_cons, hne]
  | edge e => rw [grow, names_connect, Addition.registers?, Option.none_or]

/-- What each addition says anew, and otherwise leaves as it was, is told by the last one that says
anything. -/
theorem view_grown {α : Type} (view : SymbolGraph → Option α) (adds : Addition → Option α)
    (hnone : view {} = none) (hgrow : ∀ g a, view (g.grow a) = (adds a).or (view g)) :
    view (grown history) = history.reverse.findSome? adds := by
  induction history using List.reverseRecOn with
  | nil => exact hnone
  | append_singleton history a ih =>
    rw [grown, List.foldl_append, ← grown, List.foldl_cons, List.foldl_nil, hgrow, ih,
      List.reverse_append]
    cases h : adds a <;> simp [h]

/-- For an id the last declaration counts. -/
theorem declaration?_grown :
    (grown history).declaration? id = history.reverse.findSome? (Addition.declares? id) :=
  view_grown (SymbolGraph.declaration? · id) _ rfl fun _ _ => declaration?_grow

/-- For a name the last type of that name counts. -/
theorem lookup_grown :
    (grown history).names.lookup (.str name) = history.reverse.findSome? (Addition.registers? name) :=
  view_grown (fun g => g.names.lookup (.str name)) _ rfl fun _ _ => lookup_grow

/-! ### What a name stands for -/

/-- The last type of a name was added for an id, and these additions came afterwards. -/
structure LastNamed (history : List Addition) (name id : Text) (t : TypeDecl)
    (after : List Addition) : Prop where
  added : ∃ before, history = before ++ .node id (.typeDecl t) :: after
  named : t.qualifiedName = .str name
  last : ∀ a ∈ after, a.registers? name = none

theorem exists_last (h : history.reverse.findSome? (Addition.registers? name) = some id) :
    ∃ t after, LastNamed history name id t after := by
  obtain ⟨later, a, earlier, hsplit, hregisters, hlast⟩ := List.findSome?_eq_some_iff.1 h
  have hhistory : history = earlier.reverse ++ a :: later.reverse := by
    simpa using congrArg List.reverse hsplit
  cases a with
  | node b d =>
    simp only [Addition.registers?, Option.ite_none_right_eq_some, Option.some.injEq] at hregisters
    obtain ⟨hkey, rfl⟩ := hregisters
    obtain ⟨t, rfl, hnamed⟩ := nameKey?_eq_str_iff.1 hkey
    exact ⟨t, later.reverse, ⟨_, hhistory⟩, hnamed, fun a ha => hlast a (List.mem_reverse.1 ha)⟩
  | edge e => cases hregisters

theorem LastNamed.lookup (h : LastNamed history name id t after) :
    (grown history).names.lookup (.str name) = some id := by
  obtain ⟨⟨before, rfl⟩, hnamed, hlast⟩ := h
  have hnone : after.reverse.findSome? (Addition.registers? name) = none := by
    simpa [List.findSome?_eq_none_iff] using hlast
  have hregisters : (Addition.node id (.typeDecl t)).registers? name = some id :=
    if_pos (nameKey?_eq_str_iff.2 ⟨t, rfl, hnamed⟩)
  rw [lookup_grown, List.reverse_append, List.reverse_cons, List.append_assoc, List.findSome?_append,
    hnone, Option.none_or, List.singleton_append, List.findSome?_cons, hregisters]

/-- The type is declared for its id until something else is. -/
theorem LastNamed.declaration? (h : LastNamed history name id t after) :
    (grown history).declaration? id =
      some ((after.reverse.findSome? (Addition.declares? id)).getD (.typeDecl t)) := by
  obtain ⟨⟨before, rfl⟩, -, -⟩ := h
  have hdeclares : (Addition.node id (.typeDecl t)).declares? id = some (.typeDecl t) := if_pos rfl
  rw [declaration?_grown, List.reverse_append, List.reverse_cons, List.append_assoc,
    List.findSome?_append, List.singleton_append, List.findSome?_cons, hdeclares]
  cases after.reverse.findSome? (Addition.declares? id) <;> rfl

/-- **What a name stands for.** It is whatever was declared last for the id of the last type of that
name. The empty id stands for no node. -/
theorem typeNamed?_of_last (h : LastNamed history name id t after) :
    (grown history).typeNamed? (.str name) = if id = "" then none else
      some ((after.reverse.findSome? (Addition.declares? id)).getD (.typeDecl t)) := by
  rw [typeNamed?, h.lookup]
  simp only [h.declaration?]

/-- A name that no type bore stands for nothing. -/
theorem typeNamed?_of_unnamed (h : ∀ a ∈ history, a.registers? name = none) :
    (grown history).typeNamed? (.str name) = none := by
  have hnone : history.reverse.findSome? (Addition.registers? name) = none := by
    simpa [List.findSome?_eq_none_iff] using h
  rw [typeNamed?, lookup_grown, hnone]

/-! ### Agreement -/

/-- A name agrees with a graph: what it stands for is a type of the graph that bears it, and it stands
for something if a type with an id that is not empty bears it. -/
structure Agrees (g : SymbolGraph) (name : Text) : Prop where
  sound : ∀ d, g.typeNamed? (.str name) = some d →
    ∃ id t, g.declaration? id = some (.typeDecl t) ∧ t.qualifiedName = .str name ∧ d = .typeDecl t
  complete : ∀ id t, id ≠ "" → g.declaration? id = some (.typeDecl t) →
    t.qualifiedName = .str name → ∃ d, g.typeNamed? (.str name) = some d

/-- A type of a graph was added at some time. -/
theorem exists_of_declaration?_grown (h : (grown history).declaration? id = some d) :
    ∃ a ∈ history, a.declares? id = some d := by
  rw [declaration?_grown] at h
  obtain ⟨a, ha, hdeclares⟩ := List.exists_of_findSome?_eq_some h
  exact ⟨a, List.mem_reverse.1 ha, hdeclares⟩

/-- Nothing else is declared later for the id of the last type of a name that agrees. -/
theorem Agrees.kept (h : Agrees (grown history) name) (hlast : LastNamed history name id t after)
    (hid : id ≠ "") : ∀ a ∈ after, a.declares? id = none := by
  have hstands := typeNamed?_of_last hlast
  rw [if_neg hid] at hstands
  cases hsince : after.reverse.findSome? (Addition.declares? id) with
  | none => simpa [List.findSome?_eq_none_iff] using hsince
  | some d =>
    -- what was declared since is no type of that name, or it would be the last one
    obtain ⟨a, ha, hdeclares⟩ := List.exists_of_findSome?_eq_some hsince
    rw [hsince, Option.getD_some] at hstands
    obtain ⟨-, u, -, hnamed, rfl⟩ := h.sound d hstands
    have hregisters := Addition.registers?_of_declares? hdeclares hnamed
    rw [hlast.last a (List.mem_reverse.1 ha)] at hregisters
    cases hregisters

/-- A name that no type ever bore agrees. -/
theorem agrees_of_unnamed (h : ∀ a ∈ history, a.registers? name = none) :
    Agrees (grown history) name := by
  refine ⟨fun d hd => ?_, fun id t _ hdeclared ht => ?_⟩
  · rw [typeNamed?_of_unnamed h] at hd
    cases hd
  · obtain ⟨a, ha, hdeclares⟩ := exists_of_declaration?_grown hdeclared
    have hregisters := Addition.registers?_of_declares? hdeclares ht
    rw [h a ha] at hregisters
    cases hregisters

/-- A name agrees if its last type is still declared. -/
theorem LastNamed.agrees (hlast : LastNamed history name id t after) (hid : id ≠ "")
    (hkept : ∀ a ∈ after, a.declares? id = none) : Agrees (grown history) name := by
  have hnone : after.reverse.findSome? (Addition.declares? id) = none := by
    simpa [List.findSome?_eq_none_iff] using hkept
  have hdeclared := hlast.declaration?
  have hstands := typeNamed?_of_last hlast
  rw [hnone, Option.getD_none] at hdeclared
  rw [if_neg hid, hnone, Option.getD_none] at hstands
  refine ⟨fun d hd => ⟨id, t, hdeclared, hlast.named, ?_⟩, fun _ _ _ _ _ => ⟨_, hstands⟩⟩
  rw [hstands] at hd
  exact (Option.some.inj hd).symm

/-- Either no type ever bore a name, or there is a last one that did. -/
theorem unnamed_or_last (history : List Addition) (name : Text) :
    (∀ a ∈ history, a.registers? name = none) ∨ ∃ id t after, LastNamed history name id t after := by
  cases hname : history.reverse.findSome? (Addition.registers? name) with
  | none => exact .inl (by simpa [List.findSome?_eq_none_iff] using hname)
  | some id => exact .inr ⟨id, exists_last hname⟩

/-- **When a name agrees with the graph that has grown.** Nothing else may have been declared since
for the id of the last type of that name; and if this is the empty id, then no other node may be a
type of that name. -/
theorem agrees_iff (history : List Addition) (name : Text) : Agrees (grown history) name ↔
    ∀ id t after, LastNamed history name id t after →
      (id ≠ "" → ∀ a ∈ after, a.declares? id = none) ∧
      (id = "" → ∀ other u, other ≠ "" → (grown history).declaration? other = some (.typeDecl u) →
        u.qualifiedName ≠ .str name) := by
  constructor
  · intro h id t after hlast
    refine ⟨h.kept hlast, fun hid other u hother hdeclared hnamed => ?_⟩
    obtain ⟨d, hd⟩ := h.complete other u hother hdeclared hnamed
    rw [typeNamed?_of_last hlast, if_pos hid] at hd
    cases hd
  · intro h
    rcases unnamed_or_last history name with hunnamed | ⟨id, t, after, hlast⟩
    · exact agrees_of_unnamed hunnamed
    obtain ⟨hkept, hunhidden⟩ := h id t after hlast
    by_cases hid : id = ""
    · refine ⟨fun d hd => ?_, fun other u hother hdeclared hu => ?_⟩
      · rw [typeNamed?_of_last hlast, if_pos hid] at hd
        cases hd
      · exact absurd hu (hunhidden hid other u hother hdeclared)
    · exact hlast.agrees hid (hkept hid)

end SymbolGraph

namespace Sample

/-- A class of some name. -/
def classOf (id name : Text) : Declaration :=
  .typeDecl ⟨id, name, .str name, .classType, .null, .null, []⟩

/-- The class of a node is declared once more, under another name. -/
def renamed : List SymbolGraph.Addition := [.node "a" (classOf "a" "A"), .node "a" (classOf "a" "B")]

/-- A property comes to stand at the node of a class. -/
def rekinded : List SymbolGraph.Addition :=
  [.node "a" (classOf "a" "A"), .node "a" (.property ⟨"a", "a", ⟨"B", false, []⟩, true, []⟩)]

/-- Behind a class comes one of the same name, with the empty id. -/
def hidden : List SymbolGraph.Addition := [.node "a" (classOf "a" "A"), .node "" (classOf "" "A")]

end Sample

namespace SymbolGraph

/-- After a renaming, and after a change of kind, the name still stands for what is declared now; and
behind the empty id it stands for nothing. -/
theorem disagreeing_names : ¬Agrees (grown Sample.renamed) "A" ∧
    ¬Agrees (grown Sample.rekinded) "A" ∧ ¬Agrees (grown Sample.hidden) "A" := by
  refine ⟨fun h => ?_, fun h => ?_, fun h => ?_⟩
  · obtain ⟨-, t, -, hname, ht⟩ := h.sound (Sample.classOf "a" "B") rfl
    cases ht
    simp at hname
  · obtain ⟨-, t, -, -, ht⟩ := h.sound _ rfl
    cases ht
  · obtain ⟨d, hd⟩ := h.complete "a" _ (by decide) rfl rfl
    cases hd

end SymbolGraph

end KotlinPreferences
