import KotlinPreferences.Proofs.Holder.Encoding
import KotlinPreferences.Proofs.Pass.Siblings
import KotlinPreferences.Proofs.SymbolGraph.Members
import KotlinPreferences.Service

/-!
# What an answer shows

An answer can only be built where each value that it shows is a Unicode text, and that fails in one
way. The files of a pass are no obstacle: they were written, so they and their names have an encoding.

* `Value.isUnicodeText`: a value that an answer can show;
* `textFits_cases`, `nameText_cases`, `diagnosticFits_cases`, `deferredNames_cases`: one value, the
  values of a diagnostic, and the names of some holders;
* `fileFits_of_process`: the files of a pass;
* `ShownByGeneration`, `generateBody_error_cases`: what the answer to a generation shows, and why it
  cannot be built.
-/

namespace KotlinPreferences

/-- A value that an answer can show: a text without surrogates. -/
def Value.isUnicodeText : Value → Bool
  | .str s => s.isUnicode
  | _ => false

theorem Value.isUnicode_text_of_isUnicodeText {v : Value} (h : v.isUnicodeText = true) :
    v.text.isUnicode = true := by
  cases v with
  | str s => exact h
  | _ => cases h

namespace Service

open Holder Workspace

variable {g : SymbolGraph} {options : Options} {w : Workspace} {deferred : List TypeDecl}

/-! ### Values -/

/-- A text can be shown as it is, or not at all. -/
theorem textFits_cases (s : Text) :
    (s.isUnicode = true ∧ textFits s = .ok s) ∨
      (s.isUnicode = false ∧ textFits s = .error .unusableResponse) := by
  rw [textFits]
  cases h : s.isUnicode with
  | true => exact .inl ⟨rfl, rfl⟩
  | false => exact .inr ⟨rfl, rfl⟩

/-- A name can be shown as a text, or not at all. -/
theorem nameText_cases (name : Value) :
    (∃ s, name = .str s ∧ s.isUnicode = true ∧ nameText name = .ok s) ∨
      (name.isUnicodeText = false ∧ nameText name = .error .unusableResponse) := by
  cases name with
  | str s =>
    rcases textFits_cases s with ⟨hunicode, hfits⟩ | ⟨hunicode, hfits⟩
    · exact .inl ⟨s, rfl, hunicode, hfits⟩
    · exact .inr ⟨hunicode, hfits⟩
  | _ => exact .inr ⟨rfl, rfl⟩

/-- The values of a diagnostic that an answer shows. -/
def shownValues (d : Diagnostic) : List Value := [.str d.message, d.symbol]

/-- A diagnostic can be shown, or one of its values cannot. -/
theorem diagnosticFits_cases (d : Diagnostic) :
    diagnosticFits d = .ok () ∨
      diagnosticFits d = .error .unusableResponse ∧
        ∃ v ∈ shownValues d, v.isUnicodeText = false := by
  rcases textFits_cases d.message with ⟨-, hmessage⟩ | ⟨hunicode, hmessage⟩
  · rw [diagnosticFits, hmessage, ok_bind, symbolFits]
    split
    · exact .inl rfl
    · rcases nameText_cases d.symbol with ⟨s, -, -, hsymbol⟩ | ⟨hunicode, hsymbol⟩
      · exact .inl (by rw [hsymbol]; rfl)
      · exact .inr ⟨by rw [hsymbol]; rfl, d.symbol, by simp [shownValues], hunicode⟩
  · exact .inr ⟨by rw [diagnosticFits, hmessage]; rfl, .str d.message, by simp [shownValues], hunicode⟩

/-- A diagnostic about a text that can be shown has Unicode texts. -/
theorem isUnicode_of_diagnosticFits {d : Diagnostic} {symbol : Text} (hsymbol : d.symbol = .str symbol)
    (h : diagnosticFits d = .ok ()) : d.message.isUnicode = true ∧ symbol.isUnicode = true := by
  obtain ⟨message, hmessage, hfits⟩ := bind_eq_ok_iff.1 h
  constructor
  · rcases textFits_cases d.message with ⟨hunicode, -⟩ | ⟨-, hfails⟩
    · exact hunicode
    · rw [hfails] at hmessage
      cases hmessage
  · rcases textFits_cases symbol with ⟨hunicode, -⟩ | ⟨-, hfails⟩
    · exact hunicode
    · simp only [symbolFits, hsymbol, nameText, hfails] at hfits
      cases hfits

/-- The names of deferred holders can be shown, or one of them cannot. -/
theorem deferredNames_cases (deferred : List TypeDecl) :
    (∃ names, deferredNames deferred = .ok names) ∨
      deferredNames deferred = .error .unusableResponse ∧
        ∃ holder ∈ deferred, holder.qualifiedName.isUnicodeText = false := by
  cases h : deferredNames deferred with
  | ok names => exact .inl ⟨names, rfl⟩
  | error failure =>
    obtain ⟨holder, hholder, hfails⟩ := exists_of_mapM_error h
    rcases nameText_cases holder.qualifiedName with ⟨s, -, -, hok⟩ | ⟨hunicode, herror⟩
    · rw [hok] at hfails
      cases hfails
    · rw [herror] at hfails
      cases hfails
      exact .inr ⟨rfl, holder, hholder, hunicode⟩

theorem isUnicode_of_deferredNames {names : List Text} (h : deferredNames deferred = .ok names)
    {holder : TypeDecl} (hholder : holder ∈ deferred) : holder.qualifiedName.isUnicodeText = true := by
  obtain ⟨name, hname⟩ := exists_of_mapM h hholder
  rcases nameText_cases holder.qualifiedName with ⟨s, hs, hunicode, -⟩ | ⟨-, hfails⟩
  · rw [hs]
    exact hunicode
  · rw [hfails] at hname
    cases hname

/-! ### Files -/

theorem fileFits_of_isUnicode {f : GeneratedFile} (hpackage : f.package.isUnicode = true)
    (hname : f.name.isUnicode = true) (hpath : f.path.isUnicode = true)
    (hcontent : f.content.isUnicode = true) : fileFits f = .ok () := by
  simp [fileFits, List.forM_eq_forM, textFits, hpackage, hname, hpath, hcontent, Except.map]

/-- The files that a pass leaves in a fresh workspace can be shown. -/
theorem fileFits_of_process (hsound : g.Sound)
    (h : ({} : Workspace).process g options = (w, .ok deferred)) :
    ∀ f ∈ w.sink.files, fileFits f = .ok () := by
  intro f hf
  obtain ⟨hall, -⟩ := processAll_eq h none
  rw [files_processAll h none, List.nil_append] at hf
  obtain ⟨holder, hholder, hf⟩ := List.mem_flatMap.1 hf
  obtain ⟨hmem, hready⟩ := List.mem_filter.1 hholder
  have hpassable := hall holder hmem
  obtain ⟨ds, draft, hdraft, hfile⟩ := draft_of_mem_alone hf
  obtain ⟨_, found, hsame, hencodable⟩ := hpassable.exists_draft hready
  rw [hdraft] at hsame
  cases hsame
  obtain ⟨-, -, -, texts, hclass⟩ :=
    classFile_of_draft hsound (hpassable.isConsistent hready) hdraft
  -- the class was written, so all that it is written around has an encoding
  have hunicode : draft.file.content.isUnicode = true := hencodable draft rfl
  rw [GeneratedFile.orEmpty_of_isUnicode hunicode, hclass] at hfile
  rw [hclass] at hunicode
  obtain ⟨⟨hpackage, hname, -⟩, -⟩ := isUnicode_classFile.1 hunicode
  subst hfile
  exact fileFits_of_isUnicode hpackage hname (isUnicode_classHeader hunicode) hunicode

/-! ### The answer to a generation -/

/-- The values that the answer to a generation can show: the names of the deferred holders, the
warnings about those that are no interface, and the faults of the preferences. -/
inductive ShownByGeneration (g : SymbolGraph) : Value → Prop
  | deferred {holder : TypeDecl} (hmem : holder ∈ g.holders) (hready : g.isReady holder = false) :
      ShownByGeneration g holder.qualifiedName
  | warning {holder : TypeDecl} {v : Value} (hmem : holder ∈ g.holders)
      (hready : g.isReady holder = true) (hkind : holder.kind ≠ .interface)
      (hv : v ∈ shownValues (notInterface holder)) : ShownByGeneration g v
  | fault {holder : TypeDecl} {p : Preference} {d : Diagnostic} {v : Value}
      (hholder : holder ∈ g.readyInterfaces g.holders)
      (hp : p ∈ preferences holder (g.targetsOf holder.id .hasProperty))
      (hd : faultOf? g holder p = some d) (hv : v ∈ shownValues d) : ShownByGeneration g v

/-- Each report of a ready holder is a warning about it or the fault of one of its preferences. -/
theorem shown_of_mem_draft (hsound : g.Sound) {holder : TypeDecl} (hmem : holder ∈ g.holders)
    (hready : g.isReady holder = true) {ds : List Diagnostic}
    {result : Except Failure (Option Draft)}
    (h : Holder.draft g options (.typeDecl holder) = ⟨ds, result⟩) :
    ∀ d ∈ ds, ∀ v ∈ shownValues d, ShownByGeneration g v := by
  intro d hd v hv
  by_cases hkind : holder.kind = .interface
  · obtain ⟨properties, hproperties, hresolves⟩ :=
      properties_of_isConsistent (SymbolGraph.isReady_iff.1 hready)
    rw [draft_of_interface hkind hproperties, Report.mk.injEq] at h
    obtain ⟨rfl, -⟩ := h
    obtain ⟨p, hp, hfault⟩ := faultOf?_of_accessors hsound hresolves d hd
    have htargets := hsound.properties_eq holder.id
    rw [hproperties, Except.ok.injEq] at htargets
    subst htargets
    exact .fault (SymbolGraph.mem_readyInterfaces.2 ⟨hmem, hready, hkind⟩) hp hfault hv
  · rw [draft_of_ne hkind, Report.mk.injEq] at h
    obtain ⟨rfl, -⟩ := h
    rw [List.mem_singleton.1 hd] at hv
    exact .warning hmem hready hkind hv

/-- Behind a pass that returned, an answer fails at a value that it shows. -/
theorem generateBody_error_cases (hsound : g.Sound) {failure : Failure}
    (hprocess : ({} : Workspace).process g options = (w, .ok deferred))
    (h : generateBody w deferred = .error failure) :
    failure = .unusableResponse ∧ ∃ v, ShownByGeneration g v ∧ v.isUnicodeText = false := by
  obtain ⟨hall, hdeferred, -, hdiagnostics⟩ := processAll_eq hprocess none
  rw [generateBody, forM_eq_ok_iff.2 (fileFits_of_process hsound hprocess), ok_bind,
    bind_eq_error_iff] at h
  rcases h with hfits | ⟨u, -, h⟩
  · obtain ⟨d, hd, hfails⟩ := exists_of_forM_error hfits
    rcases diagnosticFits_cases d with hok | ⟨herror, v, hv, hunicode⟩
    · rw [hok] at hfails
      cases hfails
    · rw [herror] at hfails
      cases hfails
      -- the diagnostic is that of a holder on its own
      rw [hdiagnostics] at hd
      obtain ⟨holder, hholder, hd⟩ := List.mem_flatMap.1 hd
      obtain ⟨hmem, hready⟩ := List.mem_filter.1 hholder
      obtain ⟨ds, found, hdraft⟩ := (hall holder hmem).drafted hready
      rw [(alone_eq hdraft none).2] at hd
      exact ⟨rfl, v, shown_of_mem_draft hsound hmem hready hdraft d hd v hv, hunicode⟩
  · rcases deferredNames_cases deferred with ⟨names, hnames⟩ | ⟨hfails, holder, hholder, hunicode⟩
    · rw [hnames] at h
      cases h
    · rw [hfails] at h
      cases h
      rw [hdeferred] at hholder
      obtain ⟨hmem, hready⟩ := List.mem_filter.1 hholder
      exact ⟨rfl, _, .deferred hmem (by simpa using hready), hunicode⟩

end Service

end KotlinPreferences
