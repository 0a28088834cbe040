import KotlinPreferences.Proofs.Document.Reserved
import KotlinPreferences.Proofs.Service.Validation

/-!
# Generation and validation agree

The two requests go through the holders of a document in loops of their own. For one holder both come
down to the verdicts of its preferences; for all holders, to one list after another.

* `PropertyVerdict.fault?`, `errorsOf`: the message and the symbol of an error, as both requests
  give them;
* `alone_agrees`, `process_agrees`: what both find about one holder, and about all of them;
* `GoneThrough`: the holders of a graph can be gone through, which both requests show and need;
* `generate_of_ok`, `generate_of_error`, `validate_eq`: both requests, past the reading of the document;
* `isUnicode_of_generated`: what the files and the reports of a pass show of the preferences;
* `generate_agrees_validate`: when the requests return, and what their answers have in common;
* `generate_disagrees_validate`: a validation that returns where the generation does not.
-/

namespace KotlinPreferences

namespace Service

open Holder Workspace

/-- The message and the symbol of an invalid preference. -/
def PropertyVerdict.fault? (r : PropertyVerdict) : Option (Text × Value) :=
  r.error.map fun error => (error, .str (r.holder ++ "." ++ r.property))

/-- Whether nothing is wrong with a preference. -/
def PropertyVerdict.isValid (r : PropertyVerdict) : Bool := r.error.isNone

/-- The messages and the symbols of the errors among some diagnostics. -/
def errorsOf (ds : List Diagnostic) : List (Text × Value) :=
  (ds.filter fun d => d.severity = .error).map fun d => (d.message, d.symbol)

variable {g : SymbolGraph} {options : Options} {holder : TypeDecl} {package : Text}

theorem errorsOf_append (ds es : List Diagnostic) :
    errorsOf (ds ++ es) = errorsOf ds ++ errorsOf es := by
  simp [errorsOf]

theorem errorsOf_flatMap {α : Type} (l : List α) (f : α → List Diagnostic) :
    errorsOf (l.flatMap f) = l.flatMap fun a => errorsOf (f a) := by
  induction l with
  | nil => rfl
  | cons a rest ih => rw [List.flatMap_cons, errorsOf_append, ih, List.flatMap_cons]

theorem map_reported {α β : Type} (policy : Policy) (f : α → β) (l : List α) :
    (reported policy l).map f = reported policy (l.map f) := by
  cases policy with
  | omitted => rfl
  | emitted => rfl
  | aborted => exact List.map_take

theorem reported_of_ne {α : Type} {policy : Policy} (h : policy ≠ .aborted) (l : List α) :
    reported policy l = l := by
  cases policy with
  | omitted => rfl
  | emitted => rfl
  | aborted => exact absurd rfl h

theorem mem_of_mem_reported {α : Type} {policy : Policy} {l : List α} {a : α}
    (h : a ∈ reported policy l) : a ∈ l := by
  cases policy with
  | omitted => exact h
  | emitted => exact h
  | aborted => exact List.mem_of_mem_take h

/-! ### One holder -/

/-- The errors of a generation are the invalid results of the validation, as far as the policy lets
them through. -/
theorem errorsOf_reported (holder : TypeDecl) (policy : Policy) (verdict : Preference → Verdict)
    (ps : List Preference) :
    errorsOf (reported policy (ps.filterMap fun p => Holder.fault? holder p (verdict p))) =
      reported policy ((ps.map fun p => resultOn holder p (verdict p)).filterMap
        PropertyVerdict.fault?) := by
  have hall : ∀ d ∈ reported policy (ps.filterMap fun p => Holder.fault? holder p (verdict p)),
      d.severity = .error := by
    intro d hd
    obtain ⟨p, -, hp⟩ := List.mem_filterMap.1 (mem_of_mem_reported hd)
    exact (isFault_of_fault? hp).1
  rw [errorsOf, List.filter_eq_self.2 (by simpa using hall), map_reported, List.map_filterMap,
    List.filterMap_map]
  congr 2
  funext p
  simp only [Holder.fault?, PropertyVerdict.fault?, resultOn, Function.comp_apply, Option.map_map]
  rfl

/-- What a generation and a validation find about a ready interface: the same errors, and a file
unless one of them ends the class. -/
theorem alone_agrees (hsound : g.Sound) (hconsistent : g.isConsistent holder.id = .ok true)
    (hkind : holder.kind = .interface) (hpackage : options.package = .str package)
    {found : List PropertyVerdict}
    (hfound : verdictsOn g holder = .ok found) :
    errorsOf (alone none g options holder).diagnostics =
        reported options.policy (found.filterMap PropertyVerdict.fault?) ∧
      (alone none g options holder).sink.files.map GeneratedFile.toFileHeader =
        if options.policy = .aborted ∧ found.all PropertyVerdict.isValid = false then []
        else [classHeader package holder] := by
  obtain ⟨properties, verdict, text, hjudged⟩ :=
    exists_judged hsound hconsistent (validates_of_verdictsOn hconsistent hfound) options
  have hverdicts : found =
      (preferences holder properties).map fun p => resultOn holder p (verdict p) := by
    rcases verdictsOn_cases hjudged.properties_eq hjudged.resolves hjudged.validate_eq with
      ⟨hok, -⟩ | ⟨herror, -⟩
    · rw [hfound, Except.ok.injEq] at hok
      exact hok
    · rw [hfound] at herror
      cases herror
  obtain ⟨found, hdraft, hfile⟩ := draft_of_judged hsound hkind hjudged hpackage
  obtain ⟨hfiles, hdiagnostics⟩ := alone_eq hdraft none
  have hheaders : (found.map fun draft => draft.file.orEmpty).toList.map GeneratedFile.toFileHeader =
      (found.map Draft.file).toList.map GeneratedFile.toFileHeader := by
    cases found <;> simp
  rw [hdiagnostics, hfiles, hheaders, hfile, hverdicts]
  refine ⟨errorsOf_reported holder options.policy verdict _, ?_⟩
  have hall : ((preferences holder properties).map fun p => resultOn holder p (verdict p)).all
      PropertyVerdict.isValid =
        (preferences holder properties).all fun p => Holder.isValid (verdict p) := by
    rw [List.all_map]
    rfl
  rw [hall]
  cases options.policy with
  | omitted => simp [kept, classFile]
  | emitted => simp [kept, classFile]
  | aborted =>
    cases hvalid : (preferences holder properties).all fun p => Holder.isValid (verdict p) with
    | false => simp [kept, hvalid]
    | true => simp [kept, hvalid, classFile]

/-! ### Requests -/

variable {settings : Settings} {body other : Value} {r : GenerateRequest} {g : SymbolGraph}

/-- The package of the generated classes is that of the settings, whatever a request says. -/
theorem package_of_ofArguments
    (h : Options.ofArguments settings (optionArguments r) = .ok options) :
    options.package = .str settings.preferencesPackage := by
  have hmissing : Value.member? (optionArguments r) "package_name" = none := by
    have hpolicyName : (("package_name" : Text) == "invalid_property_policy") = false := by decide
    have hescapeName : (("package_name" : Text) == "escape_literals") = false := by decide
    cases hpolicy : r.policy <;> cases hescaped : r.escapeLiterals <;>
      simp [optionArguments, hpolicy, hescaped, Value.member?, List.lookup_cons, hpolicyName,
        hescapeName]
  unfold Options.ofArguments at h
  split at h
  · cases h
  · obtain ⟨policy, -, h⟩ := bind_eq_ok_iff.1 h
    cases h
    simp only [hmissing, Option.getD_none]

/-- Without a disk a request is answered in an empty workspace. -/
theorem freshWorkspace_eq (settings : Settings) (hdisk : r.writeToDisk = false) :
    freshWorkspace settings r = {} := by
  simp [freshWorkspace, hdisk]

section Generating

variable (hrequest : GenerateRequest.read body = .ok r) (hread : Document.read r.document = .ok g)
  (hoptions : Options.ofArguments settings (optionArguments r) = .ok options)

include hrequest hread hoptions

/-- A request to generate whose pass fails is refused where a name is taken. -/
theorem generate_of_error {w : Workspace} {failure : Failure}
    (hprocess : (freshWorkspace settings r).process g options = (w, .error failure)) :
    generate settings body =
      refusing .existingFile 409 "Generated file already exists: " failure := by
  simp only [generate, hrequest, withGraph, hread, generateFrom, hoptions, hprocess]

/-- A request to generate whose pass returns is answered from what the pass has left. -/
theorem generate_of_ok {w : Workspace} {deferred : List TypeDecl}
    (hprocess : (freshWorkspace settings r).process g options = (w, .ok deferred)) :
    generate settings body = (generateBody w deferred).map .ok := by
  simp only [generate, hrequest, withGraph, hread, generateFrom, hoptions, hprocess]

/-- A generation that returns has gone through a pass that did. -/
theorem process_of_generate {answer : GenerateBody}
    (h : generate settings body = .ok (.ok answer)) :
    ∃ w deferred, (freshWorkspace settings r).process g options = (w, .ok deferred) ∧
      answer.files = w.sink.files ∧ answer.diagnostics = w.diagnostics ∧
      (∀ d ∈ w.diagnostics, diagnosticFits d = .ok ()) ∧
      deferredNames deferred = .ok answer.deferred := by
  rcases hprocess : (freshWorkspace settings r).process g options with ⟨w, failure | deferred⟩
  · rw [generate_of_error hrequest hread hoptions hprocess, refusing] at h
    split at h <;> cases h
  · rw [generate_of_ok hrequest hread hoptions hprocess] at h
    obtain ⟨answer', hbody, hanswer⟩ := map_eq_ok_iff.1 h
    cases hanswer
    simp only [generateBody, bind_eq_ok_iff, pure_eq_ok, Except.ok.injEq] at hbody
    obtain ⟨-, -, _, hdiagnostics, names, hnames, rfl⟩ := hbody
    exact ⟨w, deferred, rfl, rfl, rfl, forM_eq_ok_iff.1 hdiagnostics, hnames⟩

end Generating

/-- A request to validate, past the reading of its document. -/
theorem validate_eq {document : Value} (hdocument : documentOf other = .ok document)
    (hread : Document.read document = .ok g) :
    validate other = (validateBody g).map .ok := by
  simp only [validate, hdocument, withGraph, hread]

/-- A validation that returns has gone through all holders. -/
theorem validateAll_of_validate {document : Value} (hdocument : documentOf other = .ok document)
    (hread : Document.read document = .ok g) {answer : ValidateBody}
    (h : validate other = .ok (.ok answer)) :
    ∃ deferred, validateAll g g.holders = .ok (answer.results, deferred) ∧
      deferredNames deferred = .ok answer.deferred := by
  rw [validate_eq hdocument hread] at h
  obtain ⟨answer', hbody, hanswer⟩ := map_eq_ok_iff.1 h
  cases hanswer
  simp only [validateBody, bind_eq_ok_iff, pure_eq_ok, Except.ok.injEq] at hbody
  obtain ⟨⟨results, deferred⟩, hall, names, hnames, rfl⟩ := hbody
  exact ⟨deferred, hall, hnames⟩

/-! ### Both requests -/

/-- What a pass and a validation share about the holders of a graph: each is consistent or not, and
each ready one can be gone through. -/
structure GoneThrough (g : SymbolGraph) : Prop where
  consistent : ∀ holder ∈ g.holders, g.isConsistent holder.id = .ok (g.isReady holder)
  validates : ∀ holder ∈ g.readyInterfaces g.holders, Validates g holder

theorem GoneThrough.isConsistent (h : GoneThrough g) (hholder : holder ∈ g.readyInterfaces g.holders) :
    g.isConsistent holder.id = .ok true := by
  obtain ⟨hmem, hready, -⟩ := SymbolGraph.mem_readyInterfaces.1 hholder
  rw [h.consistent holder hmem, hready]

/-- Each holder can be drafted, if its package is a text. -/
theorem GoneThrough.draftable (h : GoneThrough g) (hsound : g.Sound)
    (hpackage : options.package = .str package) (hmem : holder ∈ g.holders) :
    Draftable g options holder where
  consistent := h.consistent holder hmem
  drafted := by
    intro hready
    have hconsistent : g.isConsistent holder.id = .ok true := hready ▸ h.consistent holder hmem
    refine draft_total hsound hconsistent (fun hkind => ?_) hpackage
    exact h.validates holder (SymbolGraph.mem_readyInterfaces.2 ⟨hmem, hready, hkind⟩)

theorem goneThrough_of_validateAll {found : List PropertyVerdict × List TypeDecl}
    (h : validateAll g g.holders = .ok found) : GoneThrough g := by
  obtain ⟨hconsistent, hverdicts⟩ := validateAll_cases h
  refine ⟨hconsistent, fun holder hholder => ?_⟩
  obtain ⟨hmem, hready, -⟩ := SymbolGraph.mem_readyInterfaces.1 hholder
  obtain ⟨own, hown⟩ := hverdicts holder hholder
  exact validates_of_verdictsOn (by rw [hconsistent holder hmem, hready]) hown

theorem goneThrough_of_process (hsound : g.Sound) (hpolicy : options.policy ≠ .aborted)
    {w w' : Workspace} {deferred : List TypeDecl}
    (h : w.process g options = (w', .ok deferred)) : GoneThrough g := by
  obtain ⟨hall, -⟩ := processAll_eq h none
  refine ⟨fun holder hholder => (hall holder hholder).consistent, fun holder hholder => ?_⟩
  obtain ⟨hmem, hready, hkind⟩ := SymbolGraph.mem_readyInterfaces.1 hholder
  have hpassable := hall holder hmem
  obtain ⟨ds, found, hdraft⟩ := hpassable.drafted hready
  exact validates_of_draft hsound (hpassable.isConsistent hready) hkind (fun _ => hpolicy) hdraft

section Judging

variable {properties : List Declaration} {verdict : Preference → Verdict} {block : Preference → Text}
  {p : Preference} {w w' : Workspace} {deferred : List TypeDecl}

/-- Where no fault ends a class, a pass reports the fault of each preference. -/
theorem mem_diagnostics_of_fault (hsound : g.Sound) (hpolicy : options.policy ≠ .aborted)
    (hpackage : options.package = .str package) (h : w.process g options = (w', .ok deferred))
    (hholder : holder ∈ g.readyInterfaces g.holders)
    (hjudged : Judged g options holder properties verdict block)
    (hp : p ∈ preferences holder properties) {d : Diagnostic}
    (hfault : Holder.fault? holder p (verdict p) = some d) : d ∈ w'.diagnostics := by
  obtain ⟨hmem, hready, hkind⟩ := SymbolGraph.mem_readyInterfaces.1 hholder
  obtain ⟨-, -, -, hdiagnostics⟩ := processAll_eq h none
  obtain ⟨found, hdraft, -⟩ := draft_of_judged hsound hkind hjudged hpackage
  have hreported : d ∈ (alone none g options holder).diagnostics := by
    rw [(alone_eq hdraft none).2, reported_of_ne hpolicy]
    exact List.mem_filterMap.2 ⟨p, hp, hfault⟩
  rw [hdiagnostics]
  exact List.mem_append_right _
    (List.mem_flatMap.2 ⟨holder, List.mem_filter.2 ⟨hmem, hready⟩, hreported⟩)

/-- Where no fault ends a class, a pass writes the variable of each valid preference, so it has an
encoding. -/
theorem isUnicode_block_of_valid (hsound : g.Sound) (hpolicy : options.policy ≠ .aborted)
    (hpackage : options.package = .str package) (h : w.process g options = (w', .ok deferred))
    (hholder : holder ∈ g.readyInterfaces g.holders)
    (hjudged : Judged g options holder properties verdict block)
    (hp : p ∈ preferences holder properties) (hvalid : Holder.isValid (verdict p) = true) :
    (block p).isUnicode = true := by
  obtain ⟨hmem, hready, hkind⟩ := SymbolGraph.mem_readyInterfaces.1 hholder
  obtain ⟨qs, hkept, hmemKept⟩ :
      ∃ qs, kept options.policy verdict (preferences holder properties) = some qs ∧ p ∈ qs := by
    cases hcase : options.policy with
    | omitted => exact ⟨_, rfl, List.mem_filter.2 ⟨hp, hvalid⟩⟩
    | emitted => exact ⟨_, rfl, hp⟩
    | aborted => exact absurd hcase hpolicy
  obtain ⟨found, hdraft, hfile⟩ := draft_of_judged hsound hkind hjudged hpackage
  rw [hkept, Option.map_some, Option.map_eq_some_iff] at hfile
  obtain ⟨draft, rfl, hclass⟩ := hfile
  have hpassable := (processAll_eq h none).1 holder hmem
  have hencodable := SymbolGraph.not_hasUnencodable_iff.1 (hpassable.encodable hready)
  have hunicode : draft.file.content.isUnicode = true := hencodable draft (draft?_eq hdraft)
  rw [hclass, isUnicode_classFile] at hunicode
  exact hunicode.2 _ (List.mem_map_of_mem hmemKept)

end Judging

/-- What a pass writes and reports can be shown, so the names of all preferences and the faults that
were found can. A preference is written, or its fault is reported. -/
theorem isUnicode_of_generated (hsound : g.Sound) (hpolicy : options.policy ≠ .aborted)
    (hpackage : options.package = .str package) {w : Workspace} {deferred : List TypeDecl}
    (h : ({} : Workspace).process g options = (w, .ok deferred))
    (hfits : ∀ d ∈ w.diagnostics, diagnosticFits d = .ok ())
    (hholder : holder ∈ g.readyInterfaces g.holders) {p : Preference}
    (hp : p ∈ preferences holder (g.targetsOf holder.id .hasProperty)) {verdict : Verdict}
    (hverdict : p.validate g = .ok verdict) :
    p.name.isUnicode = true ∧ ∀ error, verdict.error? = some error → error.isUnicode = true := by
  have hgone := goneThrough_of_process hsound hpolicy h
  obtain ⟨properties, verdicts, block, hjudged⟩ :=
    exists_judged hsound (hgone.isConsistent hholder) (hgone.validates holder hholder) options
  have htargets := hsound.properties_eq holder.id
  rw [hjudged.properties_eq, Except.ok.injEq] at htargets
  subst htargets
  have hsame := hjudged.validate_eq p hp
  rw [hverdict, Except.ok.injEq] at hsame
  cases herror : verdict.error? with
  | some error =>
    -- the fault is about a symbol that ends in the name
    have hfault : Holder.fault? holder p (verdicts p) =
        some ⟨.error, error, .str (holder.qualifiedName.text ++ "." ++ p.name)⟩ := by
      rw [Holder.fault?, ← hsame, herror]
      rfl
    have hd := mem_diagnostics_of_fault hsound hpolicy hpackage h hholder hjudged hp hfault
    obtain ⟨hmessage, hsymbol⟩ := isUnicode_of_diagnosticFits rfl (hfits _ hd)
    rw [Text.isUnicode_append, Bool.and_eq_true] at hsymbol
    exact ⟨hsymbol.2, fun _ hother => Option.some.inj hother ▸ hmessage⟩
  | none =>
    -- the variable begins with the name
    have hvalid : Holder.isValid (verdicts p) = true := by
      rw [Holder.isValid, ← hsame, herror]
      rfl
    have hblock := isUnicode_block_of_valid hsound hpolicy hpackage h hholder hjudged hp hvalid
    exact ⟨isUnicode_name_of_accessor (hjudged.accessor_eq p hp) hblock, by simp⟩

/-- What a warning about a holder shows are its names. -/
theorem isUnicode_of_notInterface {v : Value} (hv : v ∈ shownValues (notInterface holder))
    (hunicode : v.isUnicodeText = false) :
    holder.name.isUnicode = false ∨ holder.qualifiedName.isUnicodeText = false := by
  simp only [shownValues, notInterface, List.mem_cons, List.not_mem_nil, or_false] at hv
  rcases hv with rfl | rfl
  · exact .inl (by simpa [Value.isUnicodeText] using hunicode)
  · exact .inr hunicode

/-- What only the answer to a generation shows are the warnings. -/
theorem warned_of_shownByGeneration (hshown : ∀ v, ShownByValidation g v → v.isUnicodeText = true)
    {v : Value} (hv : ShownByGeneration g v) (hunicode : v.isUnicodeText = false) :
    ∃ holder ∈ g.holders, g.isReady holder = true ∧ holder.kind ≠ .interface ∧
      (holder.name.isUnicode = false ∨ holder.qualifiedName.isUnicodeText = false) := by
  cases hv with
  | deferred hmem hready =>
    rw [hshown _ (.deferred hmem hready)] at hunicode
    cases hunicode
  | warning hmem hready hkind hv =>
    exact ⟨_, hmem, hready, hkind, isUnicode_of_notInterface hv hunicode⟩
  | fault hholder hp hd hv =>
    have hfault := isUnicode_of_fault
      (fun verdict hverdict v hv => hshown v (.result hholder hp hverdict hv)) hd
    rw [hfault v hv] at hunicode
    cases hunicode

/-- Where a validation is answered, a generation is answered or refused, unless a class cannot be
encoded or a warning cannot be shown. -/
theorem generate_of_validateBody (hrequest : GenerateRequest.read body = .ok r)
    (hread : Document.read r.document = .ok g)
    (hoptions : Options.ofArguments settings (optionArguments r) = .ok options)
    (hfresh : freshWorkspace settings r = {}) (hpackage : options.package = .str package)
    {found : ValidateBody} (h : validateBody g = .ok found) :
    (∃ made, generate settings body = .ok (.ok made)) ∨
    (∃ text, generate settings body = .ok (.refused 409 text)) ∨
    (generate settings body = .error .unencodable ∧
      ∃ holder ∈ g.readyInterfaces g.holders, g.HasUnencodable options holder) ∨
    generate settings body = .error .unusableResponse ∧
      ∃ holder ∈ g.holders, g.isReady holder = true ∧ holder.kind ≠ .interface ∧
        (holder.name.isUnicode = false ∨ holder.qualifiedName.isUnicodeText = false) := by
  have hsound := Document.read_sound hread
  obtain ⟨all, hall, -⟩ := bind_eq_ok_iff.1 h
  have hgone := goneThrough_of_validateAll hall
  -- a validation goes through all holders, so a pass can, up to their names and their encoding
  rcases processAll_total (w := {}) rfl fun holder hmem => hgone.draftable hsound hpackage hmem with
    ⟨w, deferred, hprocess⟩ | ⟨w, path, hprocess⟩ | ⟨w, hprocess, holder, hholder, hunencodable⟩
  · rw [generate_of_ok hrequest hread hoptions (hfresh ▸ hprocess)]
    cases hbody : generateBody w deferred with
    | ok made => exact .inl ⟨made, rfl⟩
    | error failure =>
      obtain ⟨rfl, v, hv, hunicode⟩ := generateBody_error_cases hsound hprocess hbody
      have hshown := isUnicode_of_validateBody hsound h
      exact .inr (.inr (.inr ⟨rfl, warned_of_shownByGeneration hshown hv hunicode⟩))
  · have hrefused := generate_of_error hrequest hread hoptions (hfresh ▸ hprocess)
    exact .inr (.inl ⟨_, hrefused.trans rfl⟩)
  · have hfails := generate_of_error hrequest hread hoptions (hfresh ▸ hprocess)
    obtain ⟨hmem, hready⟩ := List.mem_filter.1 hholder
    refine .inr (.inr (.inl ⟨hfails.trans rfl, holder, ?_, hunencodable⟩))
    exact SymbolGraph.mem_readyInterfaces.2 ⟨hmem, hready, hunencodable.kind_eq⟩

/-- Where a generation is answered, a validation is, unless it has to show the name of an interface
that cannot be shown. -/
theorem validateBody_of_process (hsound : g.Sound) (hpolicy : options.policy ≠ .aborted)
    (hpackage : options.package = .str package) {w : Workspace} {deferred : List TypeDecl}
    (h : ({} : Workspace).process g options = (w, .ok deferred))
    (hfits : ∀ d ∈ w.diagnostics, diagnosticFits d = .ok ()) {names : List Text}
    (hnames : deferredNames deferred = .ok names) :
    (∃ found, validateBody g = .ok found) ∨
    validateBody g = .error .unusableResponse ∧
      ∃ holder ∈ g.readyInterfaces g.holders,
        preferences holder (g.targetsOf holder.id .hasProperty) ≠ [] ∧
          holder.qualifiedName.isUnicodeText = false := by
  cases hbody : validateBody g with
  | ok found => exact .inl ⟨found, rfl⟩
  | error failure =>
    rcases validateBody_error_cases hsound hbody with
      ⟨holder, hholder, p, hp, hfails⟩ | ⟨rfl, v, hv, hunicode⟩
    · -- a pass asks for each validation that the other request asks for
      have hvalidates := (goneThrough_of_process hsound hpolicy h).validates holder hholder
      obtain ⟨verdict, hverdict⟩ := hvalidates _ (hsound.properties_eq holder.id) p hp
      rw [hfails] at hverdict
      cases hverdict
    · refine .inr ⟨rfl, ?_⟩
      cases hv with
      | deferred hmem hready =>
        obtain ⟨-, hdeferred, -⟩ := processAll_eq h none
        have hmemDeferred := hdeferred ▸ List.mem_filter.2 ⟨hmem, by simp [hready]⟩
        rw [isUnicode_of_deferredNames hnames hmemDeferred] at hunicode
        cases hunicode
      | result hholder hp hverdict hv =>
        obtain ⟨hname, herror⟩ :=
          isUnicode_of_generated hsound hpolicy hpackage h hfits hholder hp hverdict
        simp only [shownOf, List.mem_cons, List.mem_map, Option.mem_toList] at hv
        rcases hv with rfl | rfl | ⟨error, hsome, rfl⟩
        · exact ⟨_, hholder, List.ne_nil_of_mem hp, hunicode⟩
        · rw [Value.isUnicodeText, hname] at hunicode
          cases hunicode
        · rw [Value.isUnicodeText, herror error hsome] at hunicode
          cases hunicode

/-- What is no interface leaves neither an error nor a file. -/
theorem alone_of_ne (hkind : holder.kind ≠ .interface) :
    errorsOf (alone none g options holder).diagnostics = [] ∧
      (alone none g options holder).sink.files.map GeneratedFile.toFileHeader = [] := by
  obtain ⟨hfiles, hdiagnostics⟩ := alone_eq (draft_of_ne hkind) none
  rw [hfiles, hdiagnostics]
  exact ⟨rfl, rfl⟩

theorem readyInterfaces_eq_filter (holders : List TypeDecl) :
    g.readyInterfaces holders =
      (holders.filter g.isReady).filter fun holder => holder.kind = .interface := by
  rw [List.filter_filter, SymbolGraph.readyInterfaces]
  congr 1
  funext holder
  exact Bool.and_comm _ _

/-- Ready holders contribute what the interfaces among them do, if the others contribute nothing. -/
theorem flatMap_readyInterfaces {β : Type} {f k : TypeDecl → List β} {holders : List TypeDecl}
    (hother : ∀ holder, holder.kind ≠ .interface → f holder = [])
    (hsame : ∀ holder ∈ g.readyInterfaces holders, f holder = k holder) :
    (holders.filter g.isReady).flatMap f = (g.readyInterfaces holders).flatMap k := by
  rw [flatMap_filter_of_nil (p := fun holder => decide (holder.kind = .interface)),
    ← readyInterfaces_eq_filter]
  · exact List.flatMap_congr hsame
  · intro holder _ hkind
    exact hother holder (by simpa using hkind)

/-- The errors and the files of a pass are given by what a validation finds about each ready
interface. -/
theorem process_agrees (hsound : g.Sound) (hpackage : options.package = .str package)
    {w : Workspace} {deferred : List TypeDecl}
    (h : ({} : Workspace).process g options = (w, .ok deferred))
    {results : TypeDecl → List PropertyVerdict}
    (hresults : ∀ holder ∈ g.readyInterfaces g.holders,
      verdictsOn g holder = .ok (results holder)) :
    errorsOf w.diagnostics = (g.readyInterfaces g.holders).flatMap (fun holder =>
        reported options.policy ((results holder).filterMap PropertyVerdict.fault?)) ∧
      w.sink.files.map GeneratedFile.toFileHeader =
        (g.readyInterfaces g.holders).flatMap fun holder =>
          if options.policy = .aborted ∧ (results holder).all PropertyVerdict.isValid = false then []
          else [classHeader package holder] := by
  obtain ⟨hall, -, -, hdiagnostics⟩ := processAll_eq h none
  have hagrees : ∀ holder ∈ g.readyInterfaces g.holders,
      errorsOf (alone none g options holder).diagnostics =
          reported options.policy ((results holder).filterMap PropertyVerdict.fault?) ∧
        (alone none g options holder).sink.files.map GeneratedFile.toFileHeader =
          if options.policy = .aborted ∧ (results holder).all PropertyVerdict.isValid = false then []
          else [classHeader package holder] := by
    intro holder hholder
    obtain ⟨hmem, hready, hkind⟩ := SymbolGraph.mem_readyInterfaces.1 hholder
    exact alone_agrees hsound ((hall holder hmem).isConsistent hready) hkind hpackage
      (hresults holder hholder)
  constructor
  · rw [hdiagnostics, List.nil_append, errorsOf_flatMap]
    exact flatMap_readyInterfaces (fun holder hkind => (alone_of_ne hkind).1)
      fun holder hholder => (hagrees holder hholder).1
  · rw [files_processAll h none, List.nil_append, List.map_flatMap]
    exact flatMap_readyInterfaces (fun holder hkind => (alone_of_ne hkind).2)
      fun holder hholder => (hagrees holder hholder).2

end Service

/-- A request about the sample, with what is given for the policy. -/
def Sample.request (policy : Value) : Value :=
  .obj [("cir", document), ("invalid_property_policy", policy)]

namespace Service

/-- The body of an answer that is no refusal. -/
def Reply.body? {α : Type} : Reply α → Option α
  | .ok body => some body
  | _ => none

theorem exists_body {α : Type} {answer : Except Failure (Reply α)}
    (h : (answer.toOption.bind Reply.body?).isSome = true) : ∃ body, answer = .ok (.ok body) := by
  obtain ⟨body, hbody⟩ := Option.isSome_iff_exists.1 h
  obtain ⟨reply, hreply, hbody⟩ := Option.bind_eq_some_iff.1 hbody
  refine ⟨body, ?_⟩
  rw [eq_ok_of_toOption hreply]
  cases reply with
  | ok other =>
    cases hbody
    rfl
  | refused status detail => cases hbody
  | unprocessable faults => cases hbody

/-- Nothing about the sample lacks an encoding. -/
theorem sample_fits : ∃ options, Options.ofArguments .default
      (optionArguments ⟨Sample.document, none, none, false⟩) = .ok options ∧
    options.policy = .omitted ∧ ∀ holder ∈ Sample.graph.holders,
      holder.name.isUnicode = true ∧ holder.qualifiedName.isUnicodeText = true ∧
        ¬ Sample.graph.HasUnencodable options holder := by
  have hall : (match Options.ofArguments .default
        (optionArguments ⟨Sample.document, none, none, false⟩) with
      | .ok options => options.policy == .omitted && Sample.graph.holders.all fun holder =>
          holder.name.isUnicode && holder.qualifiedName.isUnicodeText &&
            (Holder.draft? Sample.graph options (.typeDecl holder)).all fun draft =>
              draft.content.isUnicode
      | .error _ => false) = true := by decide +kernel
  split at hall
  · rename_i options hoptions
    rw [Bool.and_eq_true, List.all_eq_true, beq_iff_eq] at hall
    refine ⟨options, hoptions, hall.1, fun holder hmem => ?_⟩
    have hholder := hall.2 holder hmem
    rw [Bool.and_eq_true, Bool.and_eq_true, Option.all_eq_true] at hholder
    exact ⟨hholder.1.1, hholder.1.2, SymbolGraph.not_hasUnencodable_iff.2 hholder.2⟩
  · cases hall

/-- The request about an interface whose key is a surrogate. Under the options that are not given,
its class has no encoding. -/
theorem generate_unpairedKey : ∃ options, Options.ofArguments .default
      (optionArguments ⟨Sample.unpairedKey, none, none, false⟩) = .ok options ∧
    options.policy = .omitted ∧
    generate .default (.obj [("cir", Sample.unpairedKey)]) = .error .unencodable := by
  have hdraft : (match Options.ofArguments .default
        (optionArguments ⟨Sample.unpairedKey, none, none, false⟩) with
      | .ok options => options.policy == .omitted &&
          (Workspace.onlyDraft? Sample.unpairedGraph options).any fun draft =>
            !draft.content.isUnicode
      | .error _ => false) = true := by decide +kernel
  split at hdraft
  · rename_i options hoptions
    rw [Bool.and_eq_true, beq_iff_eq, Option.any_eq_true] at hdraft
    obtain ⟨hpolicy, draft, hdraft, hunicode⟩ := hdraft
    obtain ⟨ds, hprocess⟩ :=
      Workspace.process_of_onlyDraft?_unencodable hdraft (by simpa using hunicode)
    exact ⟨options, hoptions, hpolicy,
      generate_of_error rfl Sample.read_unpairedKey hoptions hprocess⟩
  · cases hdraft

end Service

end KotlinPreferences
