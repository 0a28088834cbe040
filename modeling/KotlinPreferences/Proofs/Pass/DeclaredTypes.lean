import KotlinPreferences.Proofs.Pass.Dependence
import KotlinPreferences.Proofs.TypeRef.Nameless

/-!
# The types that a pass writes

A variable is written with the type of its property, down to the last type argument. A holder is
generated only if the types of its properties have names, but nothing is asked of the names in their
arguments. So a type that is written has its own name, and all others exactly if the document names
all type arguments.

* `Document.writtenType`: the type of a property as its node writes it;
* `Holder.Judged.exists_property`: the property and the node behind a variable;
* `Workspace.types_of_process`: the types in the files of a pass;
* `Workspace.unnamed_process`: a pass that writes a type without a name.
-/

namespace KotlinPreferences

open Relation (ReflTransGen)
open TypeRef (HasArgument Nameless)

variable {g : SymbolGraph} {v : Value}

namespace Document

variable {node : Value} {q : Property}

/-- The type of a property as its node writes it; a missing one is null. -/
def writtenType : Value → Value
  | .obj members =>
    match attributes (Value.member members "attrs") with
    | .ok attrs => Value.member attrs "type"
    | .error _ => .null
  | _ => .null

theorem ofValue_writtenType (h : Gives node (.property q)) :
    TypeRef.ofValue (writtenType node) = .ok q.type := by
  obtain ⟨members, rfl, -, -, h⟩ := h
  obtain ⟨attrs, hattrs, h⟩ := bind_eq_ok_iff.1 h
  obtain ⟨p, hp, hsame⟩ := map_eq_ok_iff.1 h
  simp only [property, bind_eq_ok_iff, lift_eq_ok_iff, pure_eq_ok, Except.ok.injEq] at hp
  obtain ⟨_, -, type, htype, _, -, rfl⟩ := hp
  rw [writtenType, hattrs, ← Declaration.property.inj hsame]
  exact htype

end Document

open Document (nodesOf Gives writtenType)

namespace Holder

variable {options : Options} {holder : TypeDecl} {p : Preference} {properties : List Declaration}
  {verdict : Preference → Verdict} {block : Preference → Text}

/-- Behind the variable of a preference stands a property with a named type, which a node of the
document gives. -/
theorem Judged.exists_property (hread : Document.read v = .ok g)
    (h : Judged g options holder properties verdict block) (hp : p ∈ preferences holder properties) :
    ∃ q node, p.property = .property q ∧ .property q ∈ properties ∧ node ∈ nodesOf v ∧
      Gives node (.property q) ∧ q.type.name ≠ "" ∧
      ∃ a : Kotlin.Accessor, a.name = q.name ∧ a.declaredType = q.type.render ∧
        a.render? options.escapeLiterals.truthy = some (block p) := by
  obtain ⟨property, hproperty, hof⟩ := List.mem_filterMap.1 hp
  have hresolves := h.resolves property hproperty
  obtain ⟨q, rfl, -⟩ := SymbolGraph.resolves_cases hresolves
  obtain ⟨entry, -, rfl⟩ := Option.map_eq_some_iff.1 hof
  -- the property is the target of an edge, so it is declared in the graph
  have htargets := (Document.read_sound hread).properties_eq holder.id
  rw [h.properties_eq, Except.ok.injEq] at htargets
  obtain ⟨e, -, -, -, hq⟩ := SymbolGraph.mem_targetsOf_iff.1 (htargets ▸ hproperty)
  obtain ⟨node, hnode, hgives⟩ := Document.exists_node_of_property hread hq
  obtain ⟨a, hname, htype, hrender⟩ := exists_of_accessor (h.accessor_eq _ hp)
  exact ⟨q, node, rfl, hproperty, hnode, hgives, SymbolGraph.name_ne_empty_of_resolves hresolves,
    a, hname, (Except.ok.inj htype).symm, hrender⟩

end Holder

namespace Workspace

open Holder

variable {options : Options} {w : Workspace} {file : GeneratedFile}

/-- **The types that a pass writes.** A file that a pass leaves was there before, or it is the class of
a holder that is consistent, and is empty if the class has no encoding. Then each variable of the class
is written with the type of a property of the holder, which a node of the document gives. The name of
this type is not empty. At all depths of its arguments no name is empty exactly if no value without a
name stands at any depth of the type that the node writes. -/
theorem types_of_process (hread : Document.read v = .ok g)
    (hfile : file ∈ (w.process g options).1.sink.files) :
    file ∈ w.sink.files ∨
    ∃ holder ∈ g.holders, g.isConsistent holder.id = .ok true ∧
      ∃ (package : Text) (properties : List Declaration) (ps : List Preference)
        (block : Preference → Text), g.properties holder.id = .ok properties ∧
        file = (classFile options package holder (ps.map block)).orEmpty ∧
        ∀ p ∈ ps, ∃ q node, p.property = .property q ∧ .property q ∈ properties ∧
          (∃ a : Kotlin.Accessor, a.name = q.name ∧ a.declaredType = q.type.render ∧
            a.render? options.escapeLiterals.truthy = some (block p)) ∧
          node ∈ nodesOf v ∧ Gives node (.property q) ∧ q.type.name ≠ "" ∧
          (q.type.EveryName (· ≠ "") ↔
            ∀ b, ReflTransGen HasArgument (writtenType node) b → ¬Nameless b) := by
  have hsound := Document.read_sound hread
  rcases exists_draft_of_mem_processAll hsound hfile with
    hold | ⟨holder, hholder, ds, draft, hdraft, hfile⟩
  · exact .inl hold
  · subst hfile
    obtain ⟨package, properties, verdict, block, qs, -, hjudged, hkept, hclass⟩ :=
      judged_of_draft hsound hholder hdraft
    obtain ⟨hmem, hready, -⟩ := SymbolGraph.mem_readyInterfaces.1 hholder
    refine .inr ⟨holder, hmem, SymbolGraph.isReady_iff.1 hready, package, properties, qs, block,
      hjudged.properties_eq, congrArg _ hclass, fun p hp => ?_⟩
    obtain ⟨q, node, hproperty, hmember, hnode, hgives, hname, haccessor⟩ :=
      hjudged.exists_property hread (mem_of_kept hkept hp)
    exact ⟨q, node, hproperty, hmember, haccessor, hnode, hgives, hname,
      TypeRef.everyName_ne_empty_iff (Document.ofValue_writtenType hgives)⟩

end Workspace

/-! ### A list of nothing -/

namespace Sample

/-- A type whose only argument is null. -/
def listOfNull : Value :=
  .obj [("name", .str "kotlin.collections.List"), ("arguments", .arr [.null])]

/-- A holder with a preference of that type, and a converter that reads texts as values of it. -/
def nullList : Value :=
  .obj
    [("nodes", .arr
      [node "settings" "TypeDecl" [("name", .str "Settings"), ("kind", .str "interface"),
          ("annotations", holderMark)],
        node "tags" "Property" [("name", .str "tags"), ("type", listOfNull),
          ("annotations", preferenceMark [("key", .str "tags"), ("default", .str ""),
            ("converter", .str "TagsConverter")])],
        node "converter" "TypeDecl" [("name", .str "TagsConverter")],
        node "parse" "Function" [("name", .str "parse"), ("return_type", listOfNull)]]),
      ("edges", .arr
        [edge "settings" "tags" "HAS_PROPERTY", edge "converter" "parse" "HAS_FUNCTION"])]

/-- The graph of that holder. -/
def nullListGraph : SymbolGraph := graphOf nullList

theorem read_nullList : Document.read nullList = .ok nullListGraph := read_graphOf (by decide +kernel)

/-- Every preference is written. -/
def emitting : Options := { options with policy := .emitted }

/-- Its only property is a preference, and the argument of its type has no name. -/
theorem exists_property_nullList : ∃ q entry,
    nullListGraph.properties "settings" = .ok [.property q] ∧
    entryOf? q.annotations Vocabulary.preferenceMarker = some entry ∧
    q.type = ⟨"kotlin.collections.List", false, [⟨"", false, []⟩]⟩ := by
  have htypes : (nullListGraph.properties "settings").toOption.map (List.map fun d =>
      (d.kind, d.type?, (d.annotations?.bind (entryOf? · Vocabulary.preferenceMarker)).isSome)) =
        some [(.property, some ⟨"kotlin.collections.List", false, [⟨"", false, []⟩]⟩, true)] := by
    decide +kernel
  obtain ⟨ds, hds, hmap⟩ := Option.map_eq_some_iff.1 htypes
  obtain ⟨d, rfl, hd⟩ := List.map_eq_singleton_iff.1 hmap
  simp only [Prod.mk.injEq] at hd
  obtain ⟨hkind, htype, hentry⟩ := hd
  cases d with
  | property q =>
    obtain ⟨entry, hentry⟩ := Option.isSome_iff_exists.1 hentry
    exact ⟨q, entry, eq_ok_of_toOption hds, hentry, Option.some.inj htype⟩
  | _ => cases hkind

/-- It is the only holder, and a pass generates a file for it, with its text. -/
theorem exists_file_nullList : ∃ file,
    (({} : Workspace).process nullListGraph emitting).1.sink.files = [file] ∧
      file.content ≠ "" ∧ ∀ holder ∈ nullListGraph.holders, holder.id = "settings" := by
  have hids : nullListGraph.holders.all (fun holder => holder.id == ("settings" : Text)) = true := by
    decide +kernel
  have hdraft : (Workspace.onlyDraft? nullListGraph emitting).any (fun draft =>
      draft.content.isUnicode && draft.content != ("" : Text)) = true := by decide +kernel
  obtain ⟨draft, hdraft, hcontent⟩ := (Option.any_eq_true _ _).1 hdraft
  obtain ⟨hunicode, hnonempty⟩ := Bool.and_eq_true_iff.1 hcontent
  refine ⟨draft.file, Workspace.files_process_of_onlyDraft? hdraft hunicode none,
    bne_iff_ne.1 hnonempty, fun holder hholder => ?_⟩
  exact beq_iff_eq.1 (List.all_eq_true.1 hids holder hholder)

end Sample

namespace Workspace

open Sample

/-- A pass generates the holder. -/
theorem types_of_nullList : Document.read nullList = .ok nullListGraph ∧
    ∃ file ∈ (({} : Workspace).process nullListGraph emitting).1.sink.files,
    ∃ holder ∈ nullListGraph.holders, nullListGraph.isConsistent holder.id = .ok true ∧
      ∃ (package : Text) (ps : List Preference) (block : Preference → Text),
        file = (Holder.classFile emitting package holder (ps.map block)).orEmpty ∧
        ∀ p ∈ ps, ∃ q node, p.property = .property q ∧ node ∈ nodesOf nullList ∧
          Gives node (.property q) ∧ q.type.name ≠ "" ∧
          (q.type.EveryName (· ≠ "") ↔
            ∀ b, ReflTransGen HasArgument (writtenType node) b → ¬Nameless b) := by
  obtain ⟨file, hfiles, -⟩ := exists_file_nullList
  have hfile : file ∈ (({} : Workspace).process nullListGraph emitting).1.sink.files :=
    hfiles ▸ List.mem_singleton_self file
  obtain hold | ⟨holder, hmem, hconsistent, package, properties, ps, block, -, hclass, htypes⟩ :=
    types_of_process read_nullList hfile
  · cases hold
  · refine ⟨read_nullList, file, hfile, holder, hmem, hconsistent, package, ps, block, hclass,
      fun p hp => ?_⟩
    obtain ⟨q, node, hproperty, -, -, hnode, hgives, hname, hiff⟩ := htypes p hp
    exact ⟨q, node, hproperty, hnode, hgives, hname, hiff⟩

/-- The holder is consistent, and its only variable is written with a type whose argument has no
name. -/
theorem unnamed_process : Document.read nullList = .ok nullListGraph ∧
    nullListGraph.isConsistent "settings" = .ok true ∧
    ∃ (q : Property) (holder : TypeDecl) (package text : Text) (a : Kotlin.Accessor),
      nullListGraph.properties "settings" = .ok [.property q] ∧
      (({} : Workspace).process nullListGraph emitting).1.sink.files =
        [Holder.classFile emitting package holder [text]] ∧
      a.declaredType = "kotlin.collections.List<>" ∧ a.declaredType = q.type.render ∧
      a.render? emitting.escapeLiterals.truthy = some text ∧ ¬q.type.EveryName (· ≠ "") := by
  have hsound := Document.read_sound read_nullList
  obtain ⟨q, entry, hproperties, hentry, htype⟩ := exists_property_nullList
  obtain ⟨file, hfiles, hcontent, hids⟩ := exists_file_nullList
  have hfile : file ∈ (({} : Workspace).process nullListGraph emitting).1.sink.files :=
    hfiles ▸ List.mem_singleton_self file
  obtain hold | ⟨holder, hholder, ds, draft, hdraft, hleft⟩ :=
    exists_draft_of_mem_processAll hsound hfile
  · cases hold
  · -- the file has a text, so it is the class
    have hunicode : draft.file.content.isUnicode = true := by
      by_contra h
      rw [← hleft, GeneratedFile.content_orEmpty (Bool.eq_false_iff.2 h)] at hcontent
      exact hcontent rfl
    rw [GeneratedFile.orEmpty_of_isUnicode hunicode] at hleft
    subst hleft
    obtain ⟨package, properties, verdict, block, qs, -, hjudged, hkept, hclass⟩ :=
      Holder.judged_of_draft hsound hholder hdraft
    obtain ⟨hmem, hready, -⟩ := SymbolGraph.mem_readyInterfaces.1 hholder
    have hconsistent := SymbolGraph.isReady_iff.1 hready
    have hsame := hjudged.properties_eq
    rw [hids holder hmem] at hconsistent hsame
    rw [hproperties, Except.ok.injEq] at hsame
    subst hsame
    -- the only preference is written, as the policy says
    have hpreferences : Holder.preferences holder [.property q] =
        [⟨.typeDecl holder, .property q, entry⟩] := by
      simp [Holder.preferences, Holder.preferenceOf?, Declaration.annotations?, hentry]
    rw [Holder.kept_eq_of_ne (by decide) hkept, hpreferences] at hclass
    obtain ⟨a, -, hdeclared, hrender⟩ := Holder.exists_of_accessor
      (hjudged.accessor_eq _ (hpreferences ▸ List.mem_singleton_self _))
    have hdeclared : a.declaredType = q.type.render := (Except.ok.inj hdeclared).symm
    refine ⟨read_nullList, hconsistent, q, holder, package, _, a, hproperties, hclass ▸ hfiles, ?_,
      hdeclared, hrender, fun h => ?_⟩
    · rw [hdeclared, htype]
      decide
    · rw [htype, TypeRef.everyName_iff] at h
      exact (TypeRef.everyName_iff.1 (h.2 _ List.mem_cons_self)).1 rfl

end Workspace

end KotlinPreferences
