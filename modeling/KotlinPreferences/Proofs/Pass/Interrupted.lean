import KotlinPreferences.Proofs.Pass.Failing

/-!
# What an interrupted pass leaves

A holder creates its file after everything of it that can fail, but for the encoding of its text. So
a failure leaves the sink as the holders before it have left it, and of the holder itself nothing but
the reports of the preferences that were examined. Only a class without an encoding leaves its file as
well, and the file is empty.

* `Holder.Examined`: the preferences that were examined before a failure;
* `Holder.examined_of_draft_error`, `Holder.examined_of_draft`: what a draft has reported, where it
  fails and where it does not;
* `Workspace.generate_interrupted`: what the generation of one holder leaves where it fails;
* `Workspace.process_interrupted`: what a pass leaves where it fails.
-/

namespace KotlinPreferences

namespace Holder

variable {g : SymbolGraph} {options : Options} {holder : TypeDecl} {failure : Failure}
  {ds : List Diagnostic}

/-- The preferences of a holder that were examined before a failure. Their validations return; they
are the first ones, up to one whose validation fails, or all of them. -/
structure Examined (g : SymbolGraph) (holder : TypeDecl) (failure : Failure)
    (examined : List Preference) : Prop where
  validates : ∀ p ∈ examined, ∃ v, p.validate g = .ok v
  ends : ∃ properties, g.properties holder.id = .ok properties ∧
    (preferences holder properties = examined ∨
      ∃ p rest, preferences holder properties = examined ++ p :: rest ∧
        p.validate g = .error failure)

/-- A draft that fails has reported the faults of the preferences that were examined. -/
theorem examined_of_draft_error (hsound : g.Sound)
    (hconsistent : g.isConsistent holder.id = .ok true)
    (h : draft g options (.typeDecl holder) = ⟨ds, .error failure⟩) :
    ∃ examined, Examined g holder failure examined ∧
      ds = examined.filterMap (faultOf? g holder) := by
  by_cases hkind : holder.kind = .interface
  · obtain ⟨properties, hproperties, hresolves⟩ := properties_of_isConsistent hconsistent
    rw [draft_of_interface hkind hproperties, Report.mk.injEq] at h
    obtain ⟨rfl, h⟩ := h
    cases hresult : (accessors g options holder properties).result with
    | error failure' =>
      rw [hresult] at h
      cases h
      obtain ⟨examined, p, rest, hsplit, hvalidates, hfails, hreported⟩ :=
        accessors_error_cases hsound hresolves hresult
      exact ⟨examined, ⟨hvalidates, properties, hproperties, .inr ⟨p, rest, hsplit, hfails⟩⟩,
        hreported⟩
    | ok texts =>
      rw [hresult] at h
      cases texts with
      | none => cases h
      | some texts =>
        -- the variables are there, and the package is no text
        obtain ⟨hvalidates, hreported⟩ := diagnostics_of_accessors hsound hresolves hresult
        exact ⟨_, ⟨hvalidates, properties, hproperties, .inl rfl⟩, hreported⟩
  · rw [draft_of_ne hkind] at h
    cases h

/-- A draft has reported the faults of all preferences, whatever becomes of its file. -/
theorem examined_of_draft (hsound : g.Sound) (hconsistent : g.isConsistent holder.id = .ok true)
    {file : Draft} (h : draft g options (.typeDecl holder) = ⟨ds, .ok (some file)⟩)
    (failure : Failure) :
    ∃ examined, Examined g holder failure examined ∧
      ds = examined.filterMap (faultOf? g holder) := by
  have hkind := (classFile_of_draft hsound hconsistent h).1
  obtain ⟨properties, hproperties, hresolves⟩ := properties_of_isConsistent hconsistent
  rw [draft_of_interface hkind hproperties, Report.mk.injEq] at h
  obtain ⟨rfl, h⟩ := h
  cases hresult : (accessors g options holder properties).result with
  | error failure' =>
    rw [hresult] at h
    cases h
  | ok texts =>
    rw [hresult] at h
    cases texts with
    | none => cases h
    | some texts =>
      obtain ⟨hvalidates, hreported⟩ := diagnostics_of_accessors hsound hresolves hresult
      exact ⟨_, ⟨hvalidates, properties, hproperties, .inl rfl⟩, hreported⟩

end Holder

namespace Workspace

open Holder

variable {g : SymbolGraph} {options : Options} {holder : TypeDecl} {w w' : Workspace}
  {failure : Failure}

/-- What the class of a holder leaves in a sink if it has no encoding: its name is taken, and the file
is committed without text. -/
structure LeavesEmpty (options : Options) (holder : TypeDecl) (s s' : Sink) (file : GeneratedFile) :
    Prop where
  package : options.package = .str file.package
  name : file.name = holder.name
  path : file.path = Path.relativePath file.package file.name Vocabulary.fileExtension
  content : file.content = ""
  files : s'.files = s.files ++ [file]
  created : s'.created = s.created ++ [((file.package, file.name), file.path)]
  disk : s'.disk = s.disk.map fun disk => (disk.write file.path "").1

/-- A holder whose generation fails leaves the sink as it was, unless its class has no encoding, or it
was the disk that refused the file; and it leaves the reports of the preferences that were
examined. -/
theorem generate_interrupted (hsound : g.Sound) (hconsistent : g.isConsistent holder.id = .ok true)
    (h : w.generate g options (.typeDecl holder) = (w', .error failure)) :
    (w'.sink = w.sink ∨
      (failure = .unencodable ∧ g.HasUnencodable options holder ∧
        ∃ file, LeavesEmpty options holder w.sink w'.sink file) ∨
      w.sink.disk ≠ none ∧ ∃ fault, failure = .refused fault) ∧
      ∃ examined, Examined g holder failure examined ∧
        w'.diagnostics = w.diagnostics ++ examined.filterMap (faultOf? g holder) := by
  rw [generate] at h
  rcases hdraft : Holder.draft g options (.typeDecl holder) with ⟨ds, failure' | _ | draft⟩
  · rw [hdraft] at h
    cases h
    obtain ⟨examined, hexamined, rfl⟩ := examined_of_draft_error hsound hconsistent hdraft
    exact ⟨.inl rfl, examined, hexamined, rfl⟩
  · rw [hdraft] at h
    cases h
  · obtain ⟨examined, hexamined, rfl⟩ := examined_of_draft hsound hconsistent hdraft failure
    rw [hdraft] at h
    cases hname : w.sink.created.lookup (draft.package, draft.name) with
    | some path =>
      rw [absorb_of_created hname] at h
      cases h
      exact ⟨.inl rfl, examined, hexamined, rfl⟩
    | none =>
      -- the file is committed, and nothing but its encoding and the disk can still fail
      rw [absorb_of_new hname, Prod.mk.injEq] at h
      obtain ⟨rfl, hputting⟩ := h
      refine ⟨.inr ?_, examined, hexamined, rfl⟩
      rcases Sink.putting_eq_error_iff.1 hputting with hrefused | ⟨-, hunicode, rfl⟩
      · exact .inr (Sink.refused_of_taking hrefused)
      · obtain ⟨-, hpackage, hdraftName, -⟩ := classFile_of_draft hsound hconsistent hdraft
        have hempty : draft.file.orEmpty = { draft.file with content := "" } :=
          GeneratedFile.orEmpty_of_not_isUnicode hunicode
        refine .inl ⟨rfl, ⟨draft, draft?_eq hdraft, hunicode⟩, { draft.file with content := "" }, ?_⟩
        refine ⟨hpackage, hdraftName, rfl, rfl, ?_, rfl, ?_⟩
        · rw [Sink.holding, hempty]
        · rw [Sink.holding, hempty]

/-- **A failed pass leaves exactly the work of the holders before the failure.** The pass has gone
through some holders and fails at the next one. The sink is what those holders have left, with its
files, its names and its disk, as long as the disk refuses no file; only if the class of the failing
holder has no encoding, its name is taken as well, by an empty file. The diagnostics are those of the
holders before, and behind them the errors of the preferences of the failing holder that were
examined. -/
theorem process_interrupted {v : Value} (hread : Document.read v = .ok g)
    (h : w.process g options = (w', .error failure)) :
    ∃ before holder after w₁ deferred, g.holders = before ++ holder :: after ∧
      processAll g options before w = (w₁, .ok deferred) ∧
      processAll g options [holder] w₁ = (w', .error failure) ∧
      ((w.sink.disk = none ∨ ∀ fault, failure ≠ .refused fault) →
        w'.sink = w₁.sink ∨
          failure = .unencodable ∧ g.HasUnencodable options holder ∧
            ∃ file, LeavesEmpty options holder w₁.sink w'.sink file) ∧
      ∃ examined, Examined g holder failure examined ∧
        (∀ d ∈ examined.filterMap (faultOf? g holder), d.severity = .error) ∧
        w'.diagnostics = w₁.diagnostics ++ examined.filterMap (faultOf? g holder) := by
  have hsound := Document.read_sound hread
  obtain ⟨before, holder, after, w₁, deferred, hsplit, hbefore, hfails⟩ :=
    exists_of_processAll_error (congrArg Prod.snd h)
  -- the pass ends where the holder does
  have hholder : processAll g options [holder] w₁ =
      ((processAll g options [holder] w₁).1, .error failure) := Prod.ext rfl hfails
  have hw' : (processAll g options [holder] w₁).1 = w' := by
    rw [process, hsplit, processAll_append_of_ok hbefore, ← List.singleton_append,
      processAll_append_of_error hholder] at h
    exact congrArg Prod.fst h
  rw [hw'] at hholder
  obtain ⟨hconsistent, hgenerate⟩ := generate_of_processAll_error hsound hfails
  have hgenerated : w₁.generate g options (.typeDecl holder) = (w', .error failure) := by
    rw [processAll, hconsistent] at hw'
    rcases hrun : w₁.generate g options (.typeDecl holder) with ⟨w₂, failure' | u⟩
    · rw [hrun] at hgenerate
      simp only [hrun] at hw'
      cases hgenerate
      rw [hw']
    · rw [hrun] at hgenerate
      cases hgenerate
  obtain ⟨hsink, examined, hexamined, hdiagnostics⟩ :=
    generate_interrupted hsound hconsistent hgenerated
  have herrors : ∀ d ∈ examined.filterMap (faultOf? g holder), d.severity = .error := by
    intro d hd
    obtain ⟨p, -, hfault⟩ := List.mem_filterMap.1 hd
    exact (isFault_of_faultOf? hfault).1
  refine ⟨before, holder, after, w₁, deferred, hsplit, hbefore, hholder, fun hdisk => ?_, examined,
    hexamined, herrors, hdiagnostics⟩
  rcases hsink with hsame | hunencodable | ⟨hsome, fault, hrefused⟩
  · exact .inl hsame
  · exact .inr hunencodable
  · rcases hdisk with hnone | hnever
    · have hstays := @disk_processAll g options before w hsound hnone
      rw [hbefore] at hstays
      exact absurd hstays hsome
    · exact absurd hrefused (hnever fault)

end Workspace

/-! ### A pass that is interrupted -/

namespace Sample

/-- Two holders. The first preference of the second one has a converter without constructor, and the
second preference one that declares no function to read texts with. -/
def interrupted : Value :=
  .obj
    [("nodes", .arr
      [node "first" "TypeDecl" [("name", .str "First"), ("kind", .str "interface"),
          ("annotations", holderMark)],
        node "failing" "TypeDecl" [("name", .str "Failing"), ("kind", .str "interface"),
          ("annotations", holderMark)],
        node "count" "Property" [("name", .str "count"), ("type", .str "kotlin.Int"),
          ("annotations", preferenceMark [("key", .str "count"), ("default", .str "0"),
            ("converter", .str "Abstract")])],
        node "zone" "Property" [("name", .str "zone"), ("type", .str "kotlin.String"),
          ("annotations", preferenceMark [("key", .str "zone"), ("default", .str ""),
            ("converter", .str "Broken")])],
        node "abstract" "TypeDecl" [("name", .str "Abstract"), ("kind", .str "interface")],
        node "broken" "TypeDecl" [("name", .str "Broken")]]),
      ("edges", .arr [edge "failing" "count" "HAS_PROPERTY", edge "failing" "zone" "HAS_PROPERTY"])]

/-- The graph of the two holders. -/
def interruptedGraph : SymbolGraph := graphOf interrupted

theorem read_interrupted : Document.read interrupted = .ok interruptedGraph :=
  read_graphOf (by decide +kernel)

end Sample

namespace Workspace

open Sample Holder

/-- On a disk, the pass over the two holders leaves the file of the first one, and one error of the
second one. -/
theorem process_interrupted_sample :
    let w : Workspace := { sink := { disk := some disk } }
    ∃ w' failure, w.process interruptedGraph options = (w', .error failure) ∧
      w'.sink.files.map (·.name) = [("First" : Text)] ∧ w'.diagnostics.length = 1 ∧
      ∃ before holder after w₁ deferred, interruptedGraph.holders = before ++ holder :: after ∧
        processAll interruptedGraph options before w = (w₁, .ok deferred) ∧ w'.sink = w₁.sink ∧
        ∃ examined, Examined interruptedGraph holder failure examined ∧
          w'.diagnostics = w₁.diagnostics ++ examined.filterMap (faultOf? interruptedGraph holder) := by
  intro w
  have hpass : (w.process interruptedGraph options).1.sink.files.map (·.name) = [("First" : Text)] ∧
      (w.process interruptedGraph options).1.diagnostics.length = 1 ∧
      (errorOf? (w.process interruptedGraph options).2).map Failure.family = some .badLookup := by
    decide +kernel
  obtain ⟨hfiles, hreports, hfamily⟩ := hpass
  obtain ⟨failure, hfailure, hfamily⟩ := Option.map_eq_some_iff.1 hfamily
  have hprocess : w.process interruptedGraph options =
      ((w.process interruptedGraph options).1, .error failure) :=
    Prod.ext rfl (eq_error_of_errorOf? hfailure)
  have hnever : ∀ fault, failure ≠ .refused fault := by
    rintro fault rfl
    cases fault <;> cases hfamily
  obtain ⟨before, holder, after, w₁, deferred, hsplit, hbefore, -, hsink, examined, hexamined, -,
    hdiagnostics⟩ := process_interrupted read_interrupted hprocess
  have hsame : (w.process interruptedGraph options).1.sink = w₁.sink := by
    rcases hsink (.inr hnever) with hsame | ⟨rfl, -⟩
    · exact hsame
    · cases hfamily
  exact ⟨_, failure, hprocess, hfiles, hreports, before, holder, after, w₁, deferred, hsplit,
    hbefore, hsame, examined, hexamined, hdiagnostics⟩

/-- A holder whose key is a surrogate ends the pass, and it is the first one; but its file is there,
without text, and its name is taken. -/
theorem process_unpairedKey_leaves : Document.read unpairedKey = .ok unpairedGraph ∧
    ∃ holder, unpairedGraph.holders = [holder] ∧
      (∃ failure, (({} : Workspace).process unpairedGraph options).2 = .error failure) ∧
      let left := (({} : Workspace).process unpairedGraph options).1.sink
      left.files.map (fun file => (file.name, file.content)) = [(holder.name, ("" : Text))] ∧
      left.created.lookup (Vocabulary.defaultPackage, holder.name) ≠ none := by
  have hholders : unpairedGraph.holders.map TypeDecl.name = [("Settings" : Text)] := by decide +kernel
  have hdraft : (onlyDraft? unpairedGraph options).map
      (fun draft => (draft.package, draft.name, draft.content.isUnicode)) =
        some (Vocabulary.defaultPackage, ("Settings" : Text), false) := by decide +kernel
  obtain ⟨holder, hholders, hholder⟩ := List.map_eq_singleton_iff.1 hholders
  obtain ⟨draft, hdraft, hsame⟩ := Option.map_eq_some_iff.1 hdraft
  simp only [Prod.mk.injEq] at hsame
  obtain ⟨hpackage, hname, hunicode⟩ := hsame
  have hempty : draft.file.orEmpty = { draft.file with content := "" } :=
    GeneratedFile.orEmpty_of_not_isUnicode hunicode
  obtain ⟨ds, hprocess⟩ := process_of_onlyDraft?_unencodable hdraft hunicode
  refine ⟨read_unpairedKey, holder, hholders, ⟨.unencodable, by rw [hprocess]⟩, ?_, ?_⟩
  · rw [hprocess, Sink.holding, hempty]
    simp [Draft.file, hname, hholder]
  · rw [hprocess, Sink.holding]
    simp [Draft.file, hname, hpackage, hholder]

end Workspace

end KotlinPreferences
