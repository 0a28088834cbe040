import KotlinPreferences.Proofs.Document.Graph
import KotlinPreferences.Proofs.Holder.Accessors
import KotlinPreferences.Proofs.Output.Putting

/-!
# What the generation of a holder gives

* `Holder.classFile`: the file of a class with some variables;
* `Holder.draft_of_interface`: an interface is drafted from what its properties contribute;
* `Holder.draft_total`, `Holder.exists_of_draft_error`: when a ready holder has a draft;
* `Workspace.generate_consistent_interface`: what a consistent interface is generated to under each
  policy.
-/

namespace KotlinPreferences

namespace Holder

variable {g : SymbolGraph} {options : Options} {holder : TypeDecl}
  {properties : List Declaration} {verdict : Preference → Verdict} {block : Preference → Text}
  {package : Text}

/-- What is fixed about the file of a class. -/
def classHeader (package : Text) (holder : TypeDecl) : FileHeader where
  package := package
  name := holder.name
  path := Path.relativePath package holder.name Vocabulary.fileExtension
  dependencies := ⟨false, if holder.sourceFile.truthy then [holder.sourceFile] else []⟩

/-- The file of a class with some variables: the lines in front, the variables in order, and the
line behind. -/
def classFile (options : Options) (package : Text) (holder : TypeDecl) (texts : List Text) :
    GeneratedFile where
  toFileHeader := classHeader package holder
  content :=
    Kotlin.HolderClass.opening
        ⟨package, holder.name, options.storeParam.text, options.storeType.text⟩ ++
      Text.join texts ++ "\x7d\n"

/-- The draft of a class becomes its file. -/
theorem fileDraft_eq (hpackage : options.package = .str package)
    (holder : TypeDecl) (texts : List Text) :
    ∃ draft, fileDraft options holder texts = .ok draft ∧
      draft.file = classFile options package holder texts := by
  refine ⟨_, by rw [fileDraft, hpackage]; rfl, ?_⟩
  simp only [Draft.file, classFile, content, hpackage]
  rfl

/-- Only a package that is a text gives a draft. -/
theorem fileDraft_cases {texts : List Text} {found : Draft}
    (h : fileDraft options holder texts = .ok found) :
    ∃ package, options.package = .str package ∧
      found.file = classFile options package holder texts := by
  obtain ⟨package, hpackage, -⟩ := bind_eq_ok_iff.1 h
  unfold filePackage at hpackage
  split at hpackage
  · rename_i hvalue
    obtain ⟨draft, hdraft, hfile⟩ := fileDraft_eq hvalue holder texts
    rw [h, Except.ok.injEq] at hdraft
    exact ⟨_, hvalue, hdraft ▸ hfile⟩
  · cases hpackage

/-- An interface is drafted from what its properties contribute. -/
theorem draft_of_interface (hkind : holder.kind = .interface)
    (hproperties : g.properties holder.id = .ok properties) :
    draft g options (.typeDecl holder) =
      ⟨(accessors g options holder properties).diagnostics,
        match (accessors g options holder properties).result with
        | .error failure => .error failure
        | .ok none => .ok none
        | .ok (some texts) => (fileDraft options holder texts).map some⟩ := by
  simp only [draft, if_pos hkind, interfaceDraft, Report.ofResult, Report.bind_def, hproperties,
    List.nil_append]
  cases (accessors g options holder properties).result with
  | error failure => rfl
  | ok texts =>
    cases texts with
    | none => simp
    | some texts =>
      cases hdraft : fileDraft options holder texts with
      | error failure => simp [hdraft, Except.map]
      | ok found => simp [hdraft, Except.map]

/-- What is no interface is only warned about. -/
theorem draft_of_ne (hkind : holder.kind ≠ .interface) :
    draft g options (.typeDecl holder) = ⟨[notInterface holder], .ok none⟩ := by
  simp [draft, hkind, Report.tell, Report.bind_def]

/-- An interface whose preferences have verdicts and variables is drafted as the policy says. -/
theorem draft_of_judged (hsound : g.Sound) (hkind : holder.kind = .interface)
    (hjudged : Judged g options holder properties verdict block)
    (hpackage : options.package = .str package) :
    let ps := preferences holder properties
    ∃ found, draft g options (.typeDecl holder) =
        ⟨reported options.policy (ps.filterMap fun p => fault? holder p (verdict p)), .ok found⟩ ∧
      found.map Draft.file = (kept options.policy verdict ps).map fun qs =>
        classFile options package holder (qs.map block) := by
  intro ps
  have hrun := accessors_eq hsound hjudged.resolves hjudged.validate_eq hjudged.accessor_eq
  rw [draft_of_interface hkind hjudged.properties_eq, hrun]
  cases kept options.policy verdict (preferences holder properties) with
  | none => exact ⟨none, rfl, rfl⟩
  | some qs =>
    obtain ⟨found, hfound, hfile⟩ := fileDraft_eq hpackage holder (qs.map block)
    refine ⟨some found, ?_, congrArg some hfile⟩
    show (⟨_, (fileDraft options holder (qs.map block)).map some⟩ : Report (Option Draft)) = _
    rw [hfound]
    rfl

/-- A ready holder whose preferences can be validated has a draft. -/
theorem draft_total (hsound : g.Sound) (hconsistent : g.isConsistent holder.id = .ok true)
    (hvalidates : holder.kind = .interface → Validates g holder)
    (hpackage : options.package = .str package) :
    ∃ ds found, Holder.draft g options (.typeDecl holder) = ⟨ds, .ok found⟩ := by
  by_cases hkind : holder.kind = .interface
  · obtain ⟨properties, verdict, text, hjudged⟩ :=
      exists_judged hsound hconsistent (hvalidates hkind) options
    obtain ⟨found, hdraft, -⟩ := draft_of_judged hsound hkind hjudged hpackage
    exact ⟨_, found, hdraft⟩
  · exact ⟨_, none, draft_of_ne hkind⟩

/-- The draft of a declaration, if it has one. -/
def draft? (g : SymbolGraph) (options : Options) (d : Declaration) : Option Draft :=
  match (draft g options d).result with
  | .ok found => found
  | .error _ => none

/-- Unless a fault ends the class, the draft of an interface shows that its preferences can be
validated. -/
theorem validates_of_draft (hsound : g.Sound) (hconsistent : g.isConsistent holder.id = .ok true)
    (hkind : holder.kind = .interface) {ds : List Diagnostic} {found : Option Draft}
    (hends : found = none → options.policy ≠ .aborted)
    (h : Holder.draft g options (.typeDecl holder) = ⟨ds, .ok found⟩) : Validates g holder := by
  obtain ⟨properties, hproperties, hresolves⟩ := properties_of_isConsistent hconsistent
  rw [draft_of_interface hkind hproperties, Report.mk.injEq] at h
  obtain ⟨-, h⟩ := h
  intro others hothers
  rw [hproperties, Except.ok.injEq] at hothers
  subst hothers
  cases hresult : (accessors g options holder properties).result with
  | error failure =>
    rw [hresult] at h
    cases h
  | ok texts =>
    rw [hresult] at h
    refine validate_of_accessors hsound hresolves (fun hnone => hends ?_) hresult
    rw [hnone] at h
    cases h
    rfl

/-- Where the draft of a ready holder fails, the validation of one of its preferences does. -/
theorem exists_of_draft_error (hsound : g.Sound) (hconsistent : g.isConsistent holder.id = .ok true)
    (hpackage : options.package = .str package) {ds : List Diagnostic} {failure : Failure}
    (h : Holder.draft g options (.typeDecl holder) = ⟨ds, .error failure⟩) :
    holder.kind = .interface ∧ ∃ properties, g.properties holder.id = .ok properties ∧
      (∀ property ∈ properties, g.resolves property = .ok true) ∧
      ∃ p ∈ preferences holder properties, p.validate g = .error failure := by
  by_cases hkind : holder.kind = .interface
  · obtain ⟨properties, hproperties, hresolves⟩ := properties_of_isConsistent hconsistent
    rw [draft_of_interface hkind hproperties, Report.mk.injEq] at h
    obtain ⟨-, h⟩ := h
    have hfails : (accessors g options holder properties).result = .error failure := by
      cases hresult : (accessors g options holder properties).result with
      | error failure' =>
        rw [hresult] at h
        cases h
        rfl
      | ok texts =>
        rw [hresult] at h
        cases texts with
        | none => cases h
        | some texts =>
          obtain ⟨draft, hdraft, -⟩ := fileDraft_eq hpackage holder texts
          simp only [hdraft, Except.map] at h
          cases h
    exact ⟨hkind, properties, hproperties, hresolves,
      exists_of_accessors_error hsound hresolves hfails⟩
  · rw [draft_of_ne hkind] at h
    cases h

end Holder

/-! ### The workspace -/

namespace Workspace

open Holder

variable {w : Workspace} {g : SymbolGraph} {options : Options} {holder : TypeDecl}
  {properties : List Declaration} {verdict : Preference → Verdict} {block : Preference → Text}
  {package : Text}

/-- An interface whose preferences have verdicts and variables leaves what the policy lets through. -/
theorem generate_of_judged (hsound : g.Sound) (hkind : holder.kind = .interface)
    (hjudged : Judged g options holder properties verdict block)
    (hpackage : options.package = .str package)
    (hnew : w.sink.created.lookup (package, holder.name) = none) :
    let ps := preferences holder properties
    let ds := reported options.policy (ps.filterMap fun p => fault? holder p (verdict p))
    let file := fun ps => classFile options package holder (ps.map block)
    w.generate g options (.typeDecl holder) =
      match kept options.policy verdict ps with
      | none => (⟨w.sink, w.diagnostics ++ ds⟩, .ok ())
      | some qs => (⟨w.sink.holding (file qs), w.diagnostics ++ ds⟩, w.sink.putting (file qs)) := by
  intro ps ds file
  obtain ⟨found, hdraft, hfile⟩ := draft_of_judged hsound hkind hjudged hpackage
  rw [generate, hdraft]
  cases hkept : kept options.policy verdict ps with
  | none =>
    rw [hkept, Option.map_none, Option.map_eq_none_iff] at hfile
    rw [hfile]
    rfl
  | some qs =>
    rw [hkept, Option.map_some, Option.map_eq_some_iff] at hfile
    obtain ⟨draft, rfl, hclass⟩ := hfile
    have hname : (draft.package, draft.name) = (package, holder.name) :=
      congrArg (fun file : GeneratedFile => (file.package, file.name)) hclass
    rw [absorb_of_new (hname ▸ hnew), hclass]

/-- **What an interface is generated to.** Let the preferences of a consistent holder have verdicts
and variables. Invalid ones are reported, in order; left out, or generated all the same; or the
first of them is reported and the class is left out, with its name. The class that is generated
becomes one file: the lines in front, the variables in order, and the line behind. If this text has no
encoding, the file stays empty, and that is a failure. Reports and sink are otherwise as they were,
and only the disk of the sink may still refuse the file. -/
theorem generate_consistent_interface {v : Value} (hread : Document.read v = .ok g)
    (hkind : holder.kind = .interface) (hconsistent : g.isConsistent holder.id = .ok true)
    (hvalidates : Validates g holder) (hpackage : options.package = .str package)
    (hnew : w.sink.created.lookup (package, holder.name) = none) :
    ∃ (properties : List Declaration) (verdict : Preference → Verdict)
        (text : Preference → Text), g.properties holder.id = .ok properties ∧
      (∀ p ∈ preferences holder properties,
        p.validate g = .ok (verdict p) ∧ accessor g options p = .ok (text p)) ∧
      let ps := preferences holder properties
      let passed := ps.filter fun p => isValid (verdict p)
      let faults := ps.filterMap fun p => fault? holder p (verdict p)
      let file := fun ps => classFile options package holder (ps.map text)
      let generated := fun policy =>
        w.generate g { options with policy := policy } (.typeDecl holder)
      generated .omitted = (⟨w.sink.holding (file passed), w.diagnostics ++ faults⟩,
        w.sink.putting (file passed)) ∧
      generated .emitted = (⟨w.sink.holding (file ps), w.diagnostics ++ faults⟩,
        w.sink.putting (file ps)) ∧
      (faults = [] → passed = ps ∧ generated .aborted =
        (⟨w.sink.holding (file ps), w.diagnostics⟩, w.sink.putting (file ps))) ∧
      (∀ d rest, faults = d :: rest →
        generated .aborted = (⟨w.sink, w.diagnostics ++ [d]⟩, .ok ())) ∧
      ∀ qs, ((file qs).content.isUnicode = true →
          (w.sink.holding (file qs)).files = w.sink.files ++ [file qs] ∧
          w.sink.putting (file qs) = w.sink.taking (file qs)) ∧
        ((file qs).content.isUnicode = false →
          (w.sink.holding (file qs)).files = w.sink.files ++ [{ file qs with content := "" }] ∧
          w.sink.putting (file qs) = match w.sink.taking (file qs) with
            | .ok () => .error .unencodable
            | .error failure => .error failure) ∧
        (w.sink.disk = none → w.sink.taking (file qs) = .ok ()) := by
  have hsound := Document.read_sound hread
  obtain ⟨properties, verdict, text, hjudged⟩ :=
    exists_judged hsound hconsistent hvalidates options
  refine ⟨properties, verdict, text, hjudged.properties_eq,
    fun p hp => ⟨hjudged.validate_eq p hp, hjudged.accessor_eq p hp⟩, ?_⟩
  intro ps passed faults file generated
  have hgenerated : ∀ policy, generated policy =
      match kept policy verdict ps with
      | none => (⟨w.sink, w.diagnostics ++ reported policy faults⟩, .ok ())
      | some qs => (⟨w.sink.holding (file qs), w.diagnostics ++ reported policy faults⟩,
          w.sink.putting (file qs)) :=
    fun policy => generate_of_judged hsound hkind (hjudged.withPolicy policy) hpackage hnew
  refine ⟨hgenerated .omitted, hgenerated .emitted, ?_, ?_, ?_⟩
  · intro hfaults
    have hvalid := filterMap_fault?_eq_nil_iff.1 hfaults
    have haborted := hgenerated .aborted
    rw [kept, if_pos (List.all_eq_true.2 hvalid), hfaults, reported, List.take_nil,
      List.append_nil] at haborted
    exact ⟨List.filter_eq_self.2 hvalid, haborted⟩
  · intro d rest hfaults
    have hinvalid : ¬ (ps.all fun p => isValid (verdict p)) = true := by
      intro hall
      have hnil : faults = [] := filterMap_fault?_eq_nil_iff.2 (List.all_eq_true.1 hall)
      rw [hnil] at hfaults
      cases hfaults
    have haborted := hgenerated .aborted
    rw [kept, if_neg hinvalid, hfaults, reported, List.take_succ_cons, List.take_zero] at haborted
    exact haborted
  · intro qs
    refine ⟨fun hunicode => ?_, fun hunicode => ?_, fun hdisk => w.sink.taking_of_disk_eq_none hdisk _⟩
    · refine ⟨?_, ?_⟩
      · rw [Sink.holding, GeneratedFile.orEmpty_of_isUnicode hunicode]
      · rw [Sink.putting, hunicode]
        cases w.sink.taking (file qs) <;> rfl
    · refine ⟨?_, ?_⟩
      · rw [Sink.holding, GeneratedFile.orEmpty_of_not_isUnicode hunicode]
      · rw [Sink.putting, hunicode]
        cases w.sink.taking (file qs) <;> rfl

/-- A declaration with a draft leaves its file where the name is free. -/
theorem generate_of_draft? {d : Declaration} {found : Draft}
    (h : Holder.draft? g options d = some found)
    (hnew : w.sink.created.lookup (found.package, found.name) = none) :
    ∃ ds, w.generate g options d =
      (⟨w.sink.holding found.file, w.diagnostics ++ ds⟩, w.sink.putting found.file) := by
  unfold Holder.draft? at h
  rcases hdraft : Holder.draft g options d with ⟨ds, failure | result⟩
  · rw [hdraft] at h
    cases h
  · rw [hdraft] at h
    exact ⟨ds, by rw [generate, hdraft, show result = some found from h, absorb_of_new hnew]⟩

end Workspace

/-! ### Samples -/

namespace Sample

/-- The first holder of the sample. -/
def settings : TypeDecl where
  id := "settings"
  name := "Settings"
  qualifiedName := .str "Settings"
  kind := .interface
  package := .null
  sourceFile := .str "settings.kt"
  annotations := [⟨Vocabulary.preferencesMarker, []⟩]

/-- The options where nothing is said about them. -/
def options : Options where
  package := .str Vocabulary.defaultPackage
  storeType := .str Vocabulary.defaultStoreType
  storeParam := .str Vocabulary.defaultStoreParam
  policy := .omitted
  escapeLiterals := .bool false

/-- An interface with the character zero in its name, which no path can hold. -/
def nullNamed : Value :=
  .obj [("nodes", .arr
    [node "null" "TypeDecl" [("name", .str "A\x00B"), ("kind", .str "interface"),
      ("annotations", holderMark)]])]

/-- The graph of that interface. -/
def nullGraph : SymbolGraph := graphOf nullNamed

theorem read_nullNamed : Document.read nullNamed = .ok nullGraph := read_graphOf (by decide +kernel)

/-- A text of one surrogate. -/
def unpaired : Text := ⟨[.surrogate ⟨0, by decide⟩]⟩

/-- An interface with a preference whose key is a surrogate. -/
def unpairedKey : Value :=
  .obj
    [("nodes", .arr
      [node "settings" "TypeDecl" [("name", .str "Settings"), ("kind", .str "interface"),
          ("annotations", holderMark)],
        node "zone" "Property" [("name", .str "zone"), ("type", .str "kotlin.String"),
          ("annotations", preferenceMark [("key", .str unpaired), ("default", .str "")])]]),
      ("edges", .arr [edge "settings" "zone" "HAS_PROPERTY"])]

/-- The graph of that interface. -/
def unpairedGraph : SymbolGraph := graphOf unpairedKey

theorem read_unpairedKey : Document.read unpairedKey = .ok unpairedGraph :=
  read_graphOf (by decide +kernel)

end Sample

namespace Workspace

open Holder

/-- The validations of a holder return where they are seen to. -/
theorem validates_of_all {g : SymbolGraph} {holder : TypeDecl}
    (h : (match g.properties holder.id with
      | .ok ps => (preferences holder ps).all fun p => (p.validate g).toOption.isSome
      | .error _ => false) = true) : Validates g holder := by
  intro properties hproperties p hp
  rw [hproperties] at h
  obtain ⟨verdict, hverdict⟩ := Option.isSome_iff_exists.1 (List.all_eq_true.1 h p hp)
  exact ⟨verdict, eq_ok_of_toOption hverdict⟩

/-- Where invalid preferences are left out, the first holder of the sample becomes one file. -/
theorem generate_settings :
    ∃ file ds, ({} : Workspace).generate Sample.graph { Sample.options with policy := .omitted }
      (.typeDecl Sample.settings) = (⟨({} : Sink).holding file, ds⟩, .ok ()) := by
  have hconsistent : Sample.graph.isConsistent Sample.settings.id = .ok true :=
    eq_ok_of_toOption (by decide +kernel)
  have hpackage : Sample.options.package = .str Vocabulary.defaultPackage := rfl
  have hvalidates : Validates Sample.graph Sample.settings := validates_of_all (by decide +kernel)
  obtain ⟨_, _, _, -, -, homitted, -⟩ := generate_consistent_interface (w := {})
    Sample.read_document rfl hconsistent hvalidates hpackage rfl
  have hdraft : (draft? Sample.graph { Sample.options with policy := .omitted }
      (.typeDecl Sample.settings)).map (fun found => found.content.isUnicode) = some true := by
    decide +kernel
  obtain ⟨found, hfound, hunicode⟩ := Option.map_eq_some_iff.1 hdraft
  obtain ⟨ds, hgenerate⟩ := generate_of_draft? (w := {}) hfound rfl
  have hput : ({} : Sink).putting found.file = .ok () := Sink.putting_eq_ok_iff.2 ⟨rfl, hunicode⟩
  have hok := congrArg Prod.snd (homitted.symm.trans hgenerate)
  exact ⟨_, _, homitted.trans (Prod.ext rfl (hok.trans hput))⟩

/-- The generation of a consistent interface of a document fails under each policy, in an empty sink,
though its validations return. -/
def Fails (disk : Option Disk) (v : Value) (family : Failure.Family) : Prop :=
  ∃ g, Document.read v = .ok g ∧ ∃ holder ∈ g.typeDecls, holder.kind = .interface ∧
    g.isConsistent holder.id = .ok true ∧ Validates g holder ∧
    ∀ policy, ∃ failure, (generate { sink := { disk := disk } } g
      { Sample.options with policy := policy } (.typeDecl holder)).2 = .error failure ∧
        failure.family = family

theorem fails_of_any {disk : Option Disk} {v : Value} {g : SymbolGraph} {family : Failure.Family}
    (hread : Document.read v = .ok g)
    (h : (g.typeDecls.any fun holder =>
      holder.kind == .interface && (g.isConsistent holder.id).toOption == some true &&
        (match g.properties holder.id with
          | .ok ps => (preferences holder ps).all fun p => (p.validate g).toOption.isSome
          | .error _ => false) &&
        ([.omitted, .emitted, .aborted] : List Policy).all fun policy =>
          ((draft? g { Sample.options with policy := policy } (.typeDecl holder)).bind fun found =>
            errorOf? (({ disk := disk } : Sink).putting found.file)).map Failure.family ==
              some family) = true) :
    Fails disk v family := by
  obtain ⟨holder, hmem, hholder⟩ := List.any_eq_true.1 h
  simp only [Bool.and_eq_true, beq_iff_eq] at hholder
  obtain ⟨⟨⟨hkind, hconsistent⟩, hvalidates⟩, hpolicies⟩ := hholder
  refine ⟨g, hread, holder, hmem, hkind, eq_ok_of_toOption hconsistent,
    validates_of_all hvalidates, fun policy => ?_⟩
  have hpolicy := List.all_eq_true.1 hpolicies policy (by cases policy <;> simp)
  obtain ⟨failure, hfailure, hfamily⟩ := Option.map_eq_some_iff.1 (beq_iff_eq.1 hpolicy)
  obtain ⟨found, hfound, hput⟩ := Option.bind_eq_some_iff.1 hfailure
  obtain ⟨ds, hgenerate⟩ := generate_of_draft? (w := { sink := { disk := disk } }) hfound rfl
  exact ⟨failure, by rw [hgenerate, eq_error_of_errorOf? hput], hfamily⟩

/-- The generation of a consistent interface may fail though its validations return: on a disk, which
refuses a name; and without one, where the class has no encoding. -/
theorem generate_failing : Fails (some Sample.disk) Sample.nullNamed .badValue ∧
    Fails none Sample.unpairedKey .unencodable :=
  ⟨fails_of_any Sample.read_nullNamed (by decide +kernel),
    fails_of_any Sample.read_unpairedKey (by decide +kernel)⟩

end Workspace

end KotlinPreferences
