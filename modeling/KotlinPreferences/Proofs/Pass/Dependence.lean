import KotlinPreferences.Proofs.Document.Names
import KotlinPreferences.Proofs.Pass.Siblings
import KotlinPreferences.Proofs.SymbolGraph.Members

/-!
# What a file depends on

The file of a holder records the source of the holder, and nothing else. Its variables depend on
nothing else either: the converter of a preference is written by the name that the annotation gives.
But where invalid preferences are left out, the converter also says which variables there are, and
it may be declared in another source.

* `Holder.Judged.block_eq`: the variable of a preference is the same in all graphs;
* `Holder.kept_congr`, `Holder.kept_eq_of_ne`: when the same variables are written;
* `Holder.judged_of_draft`, `Workspace.exists_judged_of_mem`: where the file of a holder comes from;
* `Workspace.files_agree`: when two passes write the same file for a holder;
* `Workspace.files_differ`: two passes that do not, over documents that agree on the source.
-/

namespace KotlinPreferences

namespace Holder

variable {g g' : SymbolGraph} {options : Options} {holder : TypeDecl} {p : Preference}
  {properties : List Declaration} {verdict verdict' : Preference → Verdict}
  {block block' : Preference → Text} {policy : Policy} {ps qs : List Preference}

/-! ### One variable -/

/-- A preference that was validated has a converter of the name that the annotation gives. -/
theorem Resolved.converter_eq (h : Resolved g holder p) (hsound : g.Sound)
    (hfaithful : g.Faithful) {v : Verdict} (hv : p.validate g = .ok v) :
    ∃ key default t, Value.member? p.entry.arguments "key" = some (.str key) ∧
      Value.member? p.entry.arguments "default" = some (.str default) ∧
      p.arguments g = .ok ⟨.str key, .str default, .typeDecl t⟩ ∧
      t.qualifiedName = Preference.converterName p.entry := by
  obtain ⟨key, default, name, d, hkey, hdefault, hname, hd⟩ :=
    SymbolGraph.resolvesEntry_cases h.entry
  have harguments : p.arguments g = .ok ⟨.str key, .str default, d⟩ := by
    simp [Preference.arguments, Preference.converter, SymbolGraph.typeOf, hname, hd, hkey, hdefault]
  -- the validation has asked the converter for its constructors, so it is a type
  rw [Preference.validate, harguments, ok_bind, bind_eq_ok_iff] at hv
  obtain ⟨b, hb, -⟩ := hv
  obtain ⟨t, rfl⟩ := hsound.typeDecl_of_isConstructible
    (SymbolGraph.declaration?_of_typeNamed? hsound.declared hd) hb
  exact ⟨key, default, t, hkey, hdefault, harguments, hname ▸ hfaithful.qualifiedName_eq hd⟩

/-- The variable of a preference is the same in all graphs in which it is validated. -/
theorem accessor_congr (hsound : g.Sound) (hsound' : g'.Sound) (hfaithful : g.Faithful)
    (hfaithful' : g'.Faithful) (h : Resolved g holder p) (h' : Resolved g' holder p) {v v' : Verdict}
    (hv : p.validate g = .ok v) (hv' : p.validate g' = .ok v') (options : Options) :
    accessor g' options p = accessor g options p := by
  obtain ⟨key, default, t, hkey, hdefault, harguments, hname⟩ :=
    h.converter_eq hsound hfaithful hv
  obtain ⟨key', default', t', hkey', hdefault', harguments', hname'⟩ :=
    h'.converter_eq hsound' hfaithful' hv'
  rw [hkey, Option.some.injEq, Value.str.injEq] at hkey'
  rw [hdefault, Option.some.injEq, Value.str.injEq] at hdefault'
  subst hkey' hdefault'
  simp only [accessor, harguments, harguments', ok_bind, Declaration.qualifiedName?, hname, hname']

theorem Judged.block_eq (hsound : g.Sound) (hsound' : g'.Sound) (hfaithful : g.Faithful)
    (hfaithful' : g'.Faithful) (h : Judged g options holder properties verdict block)
    (h' : Judged g' options holder properties verdict' block')
    (hp : p ∈ preferences holder properties) : block' p = block p := by
  have hsame := accessor_congr hsound hsound' hfaithful hfaithful' (resolved_of_mem h.resolves hp)
    (resolved_of_mem h'.resolves hp) (h.validate_eq p hp) (h'.validate_eq p hp) options
  rw [h.accessor_eq p hp, h'.accessor_eq p hp] at hsame
  exact Except.ok.inj hsame

/-! ### The variables of a class -/

/-- Unless invalid preferences are left out, a class has all variables. -/
theorem kept_eq_of_ne (hpolicy : policy ≠ .omitted) (h : kept policy verdict ps = some qs) :
    qs = ps := by
  cases policy with
  | omitted => exact absurd rfl hpolicy
  | emitted => exact (Option.some.inj h).symm
  | aborted =>
    rw [kept] at h
    split at h
    · exact (Option.some.inj h).symm
    · cases h

theorem mem_of_kept (h : kept policy verdict ps = some qs) (hp : p ∈ qs) : p ∈ ps := by
  by_cases hpolicy : policy = .omitted
  · subst hpolicy
    cases h
    exact List.mem_of_mem_filter hp
  · exact kept_eq_of_ne hpolicy h ▸ hp

/-- Only whether a preference is valid matters to what becomes of it. -/
theorem kept_congr (h : ∀ p ∈ ps, isValid (verdict' p) = isValid (verdict p)) :
    kept policy verdict' ps = kept policy verdict ps := by
  have hall : (ps.all fun p => isValid (verdict' p)) = ps.all fun p => isValid (verdict p) := by
    rw [Bool.eq_iff_iff, List.all_eq_true, List.all_eq_true]
    exact forall₂_congr fun p hp => by rw [h p hp]
  cases policy with
  | omitted => exact congrArg some (List.filter_congr h)
  | emitted => rfl
  | aborted => rw [kept, kept, hall]

/-- The draft of a ready interface is its class, with the variables of the preferences that the policy
lets through. -/
theorem judged_of_draft {holders : List TypeDecl} {ds : List Diagnostic} {found : Draft}
    (hsound : g.Sound) (hholder : holder ∈ g.readyInterfaces holders)
    (h : draft g options (.typeDecl holder) = ⟨ds, .ok (some found)⟩) :
    ∃ package properties verdict block qs, options.package = .str package ∧
      Judged g options holder properties verdict block ∧
      kept options.policy verdict (preferences holder properties) = some qs ∧
      found.file = classFile options package holder (qs.map block) := by
  obtain ⟨-, hready, hkind⟩ := SymbolGraph.mem_readyInterfaces.1 hholder
  have hconsistent := SymbolGraph.isReady_iff.1 hready
  obtain ⟨-, hpackage, -⟩ := classFile_of_draft hsound hconsistent h
  have hvalidates := validates_of_draft hsound hconsistent hkind (fun hnone => by cases hnone) h
  obtain ⟨properties, verdict, block, hjudged⟩ :=
    exists_judged hsound hconsistent hvalidates options
  obtain ⟨result, hjudgment, hkept⟩ := draft_of_judged hsound hkind hjudged hpackage
  rw [h, Report.mk.injEq, Except.ok.injEq] at hjudgment
  rw [← hjudgment.2, Option.map_some, eq_comm, Option.map_eq_some_iff] at hkept
  obtain ⟨qs, hqs, hclass⟩ := hkept
  exact ⟨found.package, properties, verdict, block, qs, hpackage, hjudged, hqs, hclass.symm⟩

end Holder

/-! ### The files of two passes -/

namespace Workspace

open Holder

variable {g g' : SymbolGraph} {options : Options} {holder : TypeDecl} {w w' : Workspace}
  {file file' : GeneratedFile}

/-- A holder has its name for itself: no other ready interface of the graph carries it. -/
def OwnsName (g : SymbolGraph) (holder : TypeDecl) : Prop :=
  ∀ other ∈ g.readyInterfaces g.holders, other.name = holder.name → other = holder

/-- The file that a pass commits under the name of a holder, which no other holder shares, is the
class of the holder, with the variables of the preferences that the policy lets through, as far as it
has an encoding. -/
theorem exists_judged_of_mem (hsound : g.Sound) (hempty : w.sink.files = [])
    (hown : OwnsName g holder) (hfile : file ∈ (w.process g options).1.sink.files)
    (hname : file.name = holder.name) :
    ∃ package properties verdict block qs, options.package = .str package ∧
      Judged g options holder properties verdict block ∧
      kept options.policy verdict (preferences holder properties) = some qs ∧
      file = (classFile options package holder (qs.map block)).orEmpty := by
  rcases exists_draft_of_mem_processAll hsound hfile with
    hold | ⟨other, hother, ds, draft, hdraft, rfl⟩
  · rw [hempty] at hold
    cases hold
  · obtain ⟨package, properties, verdict, block, qs, hpackage, hjudged, hkept, hclass⟩ :=
      judged_of_draft hsound hother hdraft
    rw [hclass] at hname ⊢
    rw [GeneratedFile.toFileHeader_orEmpty] at hname
    obtain rfl := hown other hother hname
    exact ⟨package, properties, verdict, block, qs, hpackage, hjudged, hkept, rfl⟩

/-- **What the file of a holder depends on.** Let two accepted documents have a holder in common,
with the same properties, and let a pass over each commit a file under its name, which no other
ready interface shares. Then the two files differ in nothing but their content, and so record the
same sources. Unless invalid preferences are left out, the content is the same as well. Where they
are, it is the same if both documents find the same preferences valid. -/
theorem files_agree {v v' : Value} (hread : Document.read v = .ok g)
    (hread' : Document.read v' = .ok g') (hempty : w.sink.files = []) (hempty' : w'.sink.files = [])
    (hown : OwnsName g holder) (hown' : OwnsName g' holder)
    (hproperties : g'.properties holder.id = g.properties holder.id)
    (hfile : file ∈ (w.process g options).1.sink.files) (hname : file.name = holder.name)
    (hfile' : file' ∈ (w'.process g' options).1.sink.files) (hname' : file'.name = holder.name) :
    file'.toFileHeader = file.toFileHeader ∧
    (options.policy ≠ .omitted → file' = file) ∧
    ∃ (properties : List Declaration) (verdict verdict' : Preference → Verdict),
      g.properties holder.id = .ok properties ∧
      (∀ p ∈ preferences holder properties,
        p.validate g = .ok (verdict p) ∧ p.validate g' = .ok (verdict' p)) ∧
      ((∀ p ∈ preferences holder properties, isValid (verdict' p) = isValid (verdict p)) →
        file' = file) := by
  have hsound := Document.read_sound hread
  have hsound' := Document.read_sound hread'
  obtain ⟨package, properties, verdict, block, qs, hpackage, hjudged, hkept, rfl⟩ :=
    exists_judged_of_mem hsound hempty hown hfile hname
  obtain ⟨package', others, verdict', block', qs', hpackage', hjudged', hkept', rfl⟩ :=
    exists_judged_of_mem hsound' hempty' hown' hfile' hname'
  rw [hpackage, Value.str.injEq] at hpackage'
  rw [hjudged.properties_eq, hjudged'.properties_eq, Except.ok.injEq] at hproperties
  subst hpackage' hproperties
  have hblock : ∀ p ∈ qs, block' p = block p := fun p hp =>
    hjudged.block_eq hsound hsound' (Document.read_faithful hread) (Document.read_faithful hread')
      hjudged' (mem_of_kept hkept hp)
  -- the same variables in the same order make the same class
  have hsame : qs' = qs → (classFile options package holder (qs'.map block')).orEmpty =
      (classFile options package holder (qs.map block)).orEmpty := by
    rintro rfl
    rw [List.map_congr_left hblock]
  have hheader : (classFile options package holder (qs'.map block')).orEmpty.toFileHeader =
      (classFile options package holder (qs.map block)).orEmpty.toFileHeader := by
    rw [GeneratedFile.toFileHeader_orEmpty, GeneratedFile.toFileHeader_orEmpty]
    rfl
  refine ⟨hheader, fun hpolicy => hsame ?_, others, verdict, verdict', hjudged.properties_eq,
    fun p hp => ⟨hjudged.validate_eq p hp, hjudged'.validate_eq p hp⟩, fun hvalid => hsame ?_⟩
  · rw [kept_eq_of_ne hpolicy hkept, kept_eq_of_ne hpolicy hkept']
  · rw [kept_congr hvalid, hkept, Option.some.injEq] at hkept'
    exact hkept'.symm

end Workspace

/-! ### Two documents that agree on a source -/

/-- A node that two accepted documents share is declared alike in both. -/
theorem Document.declared_of_shared {v v' : Value} {g g' : SymbolGraph} (hread : read v = .ok g)
    (havoids : avoidsReserved v = true) (hread' : read v' = .ok g')
    (havoids' : avoidsReserved v' = true) (node : Value) (hnode : node ∈ nodesOf v)
    (hnode' : node ∈ nodesOf v') :
    ∃ d, Gives node d ∧ g.declaration? d.id = some d ∧ g'.declaration? d.id = some d := by
  obtain ⟨d, hgives, hd⟩ := (read_wellFormed hread havoids).2 node hnode
  obtain ⟨d', hgives', hd'⟩ := (read_wellFormed hread' havoids').2 node hnode'
  cases hgives.unique hgives'
  exact ⟨d, hgives, hd, hd'⟩

namespace Sample

/-- A holder with a preference that is a number. -/
def readerHolder : Value :=
  node "settings" "TypeDecl" [("name", .str "Settings"), ("kind", .str "interface"),
    ("source_file", .str "Settings.kt"), ("annotations", holderMark)]

/-- The preference of that holder. -/
def readerProperty : Value :=
  node "size" "Property" [("name", .str "size"), ("type", .str "kotlin.Int"),
    ("annotations", preferenceMark [("key", .str "size"), ("default", .str "1"),
      ("converter", .str "IntConverter")])]

/-- The holder, and the converter of its preference in another source. The converter reads values of
some type. -/
def readerDocument (returnType : Text) : Value :=
  .obj
    [("nodes", .arr
      [readerHolder, readerProperty,
        node "converter" "TypeDecl" [("name", .str "IntConverter"),
          ("source_file", .str "Converters.kt")],
        node "parse" "Function" [("name", .str "parse"), ("return_type", .str returnType)]]),
      ("edges", .arr
        [edge "settings" "size" "HAS_PROPERTY", edge "converter" "parse" "HAS_FUNCTION"])]

theorem avoidsReserved_reader (returnType : Text) :
    Document.avoidsReserved (readerDocument returnType) = true := rfl

/-- The graph in which the converter reads numbers. -/
def numberGraph : SymbolGraph := graphOf (readerDocument "kotlin.Int")

/-- The graph in which the converter reads numbers or null. -/
def nullableGraph : SymbolGraph := graphOf (readerDocument "kotlin.Int?")

theorem read_number : Document.read (readerDocument "kotlin.Int") = .ok numberGraph :=
  read_graphOf (by decide +kernel)

theorem read_nullable : Document.read (readerDocument "kotlin.Int?") = .ok nullableGraph :=
  read_graphOf (by decide +kernel)

/-- The id of a declaration that a node of a document gives. -/
theorem id_of_gives {id kind : Text} {attrs : Value.Members} {d : Declaration}
    (h : Document.Gives (node id kind attrs) d) : d.id = id := by
  obtain ⟨members, hobj, hid, -⟩ := h
  cases hobj
  exact (Value.str.inj hid).symm

/-- Both graphs declare the same holder, and the same preference of it. -/
theorem readers_agree :
    (∃ d, numberGraph.declaration? "settings" = some d ∧
      nullableGraph.declaration? "settings" = some d) ∧
    ∃ d, numberGraph.declaration? "size" = some d ∧ nullableGraph.declaration? "size" = some d := by
  have hshared := Document.declared_of_shared read_number (avoidsReserved_reader _) read_nullable
    (avoidsReserved_reader _)
  constructor
  · obtain ⟨d, hgives, hd⟩ := hshared readerHolder List.mem_cons_self List.mem_cons_self
    exact ⟨d, id_of_gives hgives ▸ hd⟩
  · obtain ⟨d, hgives, hd⟩ := hshared readerProperty
      (List.mem_cons_of_mem _ List.mem_cons_self) (List.mem_cons_of_mem _ List.mem_cons_self)
    exact ⟨d, id_of_gives hgives ▸ hd⟩

/-- The only ready interface of each graph is that holder. -/
theorem exists_ready_holder {g : SymbolGraph} (hdecl : g.Declared)
    (h : (g.readyInterfaces g.holders).map (fun holder =>
      (holder.id, holder.name, holder.sourceFile.isText, holder.sourceFile.text)) =
        ([("settings", "Settings", true, "Settings.kt")] : List (Text × Text × Bool × Text))) :
    ∃ holder : TypeDecl, holder.id = "settings" ∧ holder.name = "Settings" ∧
      holder.sourceFile = .str "Settings.kt" ∧
      g.declaration? "settings" = some (.typeDecl holder) ∧ Workspace.OwnsName g holder := by
  obtain ⟨holder, rest, hready, hholder, hrest⟩ := List.map_eq_cons_iff.1 h
  cases List.map_eq_nil_iff.1 hrest
  simp only [Prod.mk.injEq] at hholder
  obtain ⟨hid, hname, hisText, htext⟩ := hholder
  have hmem : holder ∈ g.readyInterfaces g.holders := hready ▸ List.mem_singleton_self _
  have hdeclared := hdecl.mem_typeDecls_iff.1
    (List.mem_of_mem_filter (SymbolGraph.mem_readyInterfaces.1 hmem).1)
  obtain ⟨source, hsource⟩ := Value.isText_cases hisText
  refine ⟨holder, hid, hname, ?_, hid ▸ hdeclared, fun other hother _ => ?_⟩
  · rw [hsource] at htext ⊢
    exact congrArg Value.str htext
  · rw [hready] at hother
    exact List.mem_singleton.1 hother

/-- A holder that two graphs have, with the same properties, and whose name is its own in both. -/
structure Shared (g g' : SymbolGraph) (holder : TypeDecl) : Prop where
  declared : g.declaration? holder.id = some (.typeDecl holder)
  declared' : g'.declaration? holder.id = some (.typeDecl holder)
  owns : Workspace.OwnsName g holder
  owns' : Workspace.OwnsName g' holder
  properties : g'.properties holder.id = g.properties holder.id

/-- Both graphs share the holder, from the same source. -/
theorem exists_shared_holder : ∃ holder : TypeDecl, holder.name = "Settings" ∧
    holder.sourceFile = .str "Settings.kt" ∧ Shared numberGraph nullableGraph holder := by
  have hsound := Document.read_sound read_number
  have hsound' := Document.read_sound read_nullable
  obtain ⟨⟨d, hd, hd'⟩, c, hc, hc'⟩ := readers_agree
  obtain ⟨holder, hid, hname, hsource, hdecl, hown⟩ :=
    exists_ready_holder hsound.declared (by decide +kernel)
  obtain ⟨holder', -, -, -, hdecl', hown'⟩ :=
    exists_ready_holder hsound'.declared (by decide +kernel)
  rw [hd, Option.some.injEq] at hdecl
  rw [hd', hdecl, Option.some.injEq, Declaration.typeDecl.injEq] at hdecl'
  subst hdecl' hdecl
  have hedges : (numberGraph.edgesFrom "settings").filter (fun e => e.kind = .hasProperty) =
      [⟨"settings", "size", .hasProperty⟩] := by decide +kernel
  have hedges' : (nullableGraph.edgesFrom "settings").filter (fun e => e.kind = .hasProperty) =
      [⟨"settings", "size", .hasProperty⟩] := by decide +kernel
  refine ⟨holder, hname, hsource, by rw [hid, hd], by rw [hid, hd'], hown, hown', ?_⟩
  rw [hsound.properties_eq, hsound'.properties_eq, hid, SymbolGraph.targetsOf,
    SymbolGraph.targetsOf, hedges, hedges']
  simp [hc, hc']

end Sample

namespace Workspace

open Holder Sample

/-- Where invalid preferences are kept, the converter of the other source does not show in the
file. -/
theorem files_agree_readers : ∃ file : GeneratedFile, file.name = "Settings" ∧
    ∀ g ∈ [numberGraph, nullableGraph],
      file ∈ (({} : Workspace).process g { options with policy := .emitted }).1.sink.files := by
  have hdrafts : ∀ g ∈ [numberGraph, nullableGraph],
      (onlyDraft? g { options with policy := .emitted }).map
        (fun draft => (draft.name, draft.content.isUnicode)) = some (("Settings" : Text), true) := by
    decide +kernel
  simp only [List.forall_mem_cons, Option.map_eq_some_iff, Prod.mk.injEq] at hdrafts
  obtain ⟨⟨draft, hdraft, hname, hunicode⟩, ⟨draft', hdraft', hname', hunicode'⟩, -⟩ := hdrafts
  have hfiles := files_process_of_onlyDraft? hdraft hunicode none
  have hfiles' := files_process_of_onlyDraft? hdraft' hunicode' none
  have hfile := hfiles.symm ▸ List.mem_singleton_self draft.file
  have hfile' := hfiles'.symm ▸ List.mem_singleton_self draft'.file
  obtain ⟨holder, hholder, -, hshared⟩ := exists_shared_holder
  have hempty : ({} : Workspace).sink.files = [] := rfl
  obtain ⟨-, hsame, -⟩ := files_agree read_number read_nullable hempty hempty hshared.owns
    hshared.owns' hshared.properties hfile (hname.trans hholder.symm) hfile'
    (hname'.trans hholder.symm)
  refine ⟨draft.file, hname, ?_⟩
  simp only [List.forall_mem_cons, hfiles, hfiles', hsame (by decide)]
  simp

/-- Where they are left out, it does. The two passes commit files of the same holder, with the same
properties and from the same source, which is the only one that they record; but one of them has a
variable that the other has not. -/
theorem files_differ : ∃ (holder : TypeDecl) (file file' : GeneratedFile),
    holder.sourceFile = .str "Settings.kt" ∧
    numberGraph.declaration? holder.id = some (.typeDecl holder) ∧
    nullableGraph.declaration? holder.id = some (.typeDecl holder) ∧
    nullableGraph.properties holder.id = numberGraph.properties holder.id ∧
    (({} : Workspace).process numberGraph options).1.sink.files = [file] ∧
    (({} : Workspace).process nullableGraph options).1.sink.files = [file'] ∧
    file.name = holder.name ∧ file'.name = holder.name ∧
    file.dependencies = ⟨false, [.str "Settings.kt"]⟩ ∧
    file'.dependencies = ⟨false, [.str "Settings.kt"]⟩ ∧ file'.content ≠ file.content := by
  obtain ⟨holder, hname, hsource, hdecl, hdecl', hown, hown', hproperties⟩ := exists_shared_holder
  have hdrafts : (match onlyDraft? numberGraph options, onlyDraft? nullableGraph options with
      | some draft, some draft' =>
        draft.name == ("Settings" : Text) && draft'.name == ("Settings" : Text) &&
          draft.content.isUnicode && draft'.content.isUnicode && draft'.content != draft.content
      | _, _ => false) = true := by decide +kernel
  split at hdrafts
  · rename_i draft draft' hdraft hdraft'
    simp only [Bool.and_eq_true, beq_iff_eq, bne_iff_ne, ← hname] at hdrafts
    obtain ⟨⟨⟨⟨hdraftName, hdraftName'⟩, hunicode⟩, hunicode'⟩, hcontent⟩ := hdrafts
    have hfiles := files_process_of_onlyDraft? hdraft hunicode none
    have hfiles' := files_process_of_onlyDraft? hdraft' hunicode' none
    have hsources : ∀ package, (classHeader package holder).dependencies =
        ⟨false, [.str "Settings.kt"]⟩ := by
      intro package
      rw [classHeader, hsource]
      rfl
    obtain ⟨package, _, _, _, _, -, -, -, hclass⟩ := exists_judged_of_mem (w := {})
      (Document.read_sound read_number) rfl hown (hfiles ▸ List.mem_singleton_self _) hdraftName
    obtain ⟨package', _, _, _, _, -, -, -, hclass'⟩ := exists_judged_of_mem (w := {})
      (Document.read_sound read_nullable) rfl hown' (hfiles' ▸ List.mem_singleton_self _) hdraftName'
    refine ⟨holder, draft.file, draft'.file, hsource, hdecl, hdecl', hproperties, hfiles, hfiles',
      hdraftName, hdraftName', ?_, ?_, hcontent⟩
    · rw [hclass, GeneratedFile.toFileHeader_orEmpty]
      exact hsources package
    · rw [hclass', GeneratedFile.toFileHeader_orEmpty]
      exact hsources package'
  · cases hdrafts

end Workspace

end KotlinPreferences
