import KotlinPreferences.Proofs.Holder.Generation

/-!
# A pass is the concatenation of its holders

No holder sees what others have left in the workspace, apart from the names that are taken. So a
pass that returns leaves what each consistent holder would leave on its own, one after another.

* `SymbolGraph.Declared.mem_holders_iff`: the holders of a graph;
* `SymbolGraph.isReady`: whether a holder is generated and not deferred;
* `Holder.draft_cases`, `Holder.classFile_of_draft`: what such a holder drafts;
* `Workspace.alone`: what a holder leaves on its own;
* `Workspace.generate_cases`, `Workspace.generate_total`: what is left where the generation of a
  declaration returns, and when it does;
* `SymbolGraph.HasUnencodable`: a class without an encoding;
* `Workspace.Draftable`, `Workspace.Passable`: a holder with a draft, and one that a pass can go
  through;
* `Workspace.processAll_eq`, `Workspace.processAll_total`: what is left by a run over some holders,
  and when it returns;
* `Workspace.process_eq_concatenation`: what a pass leaves, holder by holder.
-/

namespace KotlinPreferences

/-- The holders of a graph are the types that are marked as holders. -/
theorem SymbolGraph.Declared.mem_holders_iff {g : SymbolGraph} (h : g.Declared)
    {holder : TypeDecl} : holder ∈ g.holders ↔
      g.declaration? holder.id = some (.typeDecl holder) ∧
        ∃ a ∈ holder.annotations, a.typeName = Vocabulary.preferencesMarker := by
  rw [SymbolGraph.holders, SymbolGraph.annotated, List.mem_filter, h.mem_typeDecls_iff, entryOf?,
    List.find?_isSome]
  simp

/-- They come in the order of the nodes. -/
theorem SymbolGraph.Declared.ids_holders_sublist {g : SymbolGraph} (h : g.Declared) :
    (g.holders.map TypeDecl.id).Sublist (g.nodes.map Node.id) :=
  (List.filter_sublist.map TypeDecl.id).trans h.ids_typeDecls_sublist

/-- Whether a holder is consistent, so that it is generated and not deferred. -/
def SymbolGraph.isReady (g : SymbolGraph) (holder : TypeDecl) : Bool :=
  match g.isConsistent holder.id with
  | .ok ready => ready
  | .error _ => false

theorem SymbolGraph.isReady_iff {g : SymbolGraph} {holder : TypeDecl} :
    g.isReady holder = true ↔ g.isConsistent holder.id = .ok true := by
  unfold SymbolGraph.isReady
  cases g.isConsistent holder.id <;> simp

/-- The interfaces among the holders that are ready, in order. -/
def SymbolGraph.readyInterfaces (g : SymbolGraph) (holders : List TypeDecl) : List TypeDecl :=
  holders.filter fun holder => g.isReady holder && holder.kind = .interface

theorem SymbolGraph.mem_readyInterfaces {g : SymbolGraph} {holder : TypeDecl}
    {holders : List TypeDecl} : holder ∈ g.readyInterfaces holders ↔
      holder ∈ holders ∧ g.isReady holder = true ∧ holder.kind = .interface := by
  simp [SymbolGraph.readyInterfaces]

namespace Holder

variable {g : SymbolGraph} {options : Options} {holder : TypeDecl} {found : Option Draft}

/-- The draft of a consistent holder, where it has one: a warning for what is no interface; a file
behind errors; or, where a fault ends the class, that fault alone. -/
theorem draft_cases (hsound : g.Sound) (hconsistent : g.isConsistent holder.id = .ok true)
    {ds : List Diagnostic} (h : draft g options (.typeDecl holder) = ⟨ds, .ok found⟩) :
    (holder.kind ≠ .interface ∧ ds = [notInterface holder] ∧ found = none) ∨
    (holder.kind = .interface ∧ (∀ d ∈ ds, IsFault d) ∧
      ((∃ file package texts, found = some file ∧ options.package = .str package ∧
          file.file = classFile options package holder texts) ∨
        (options.policy = .aborted ∧ found = none ∧ ∃ d, ds = [d]))) := by
  by_cases hkind : holder.kind = .interface
  · obtain ⟨properties, hproperties, hresolves⟩ := properties_of_isConsistent hconsistent
    rw [draft_of_interface hkind hproperties, Report.mk.injEq] at h
    obtain ⟨rfl, hfound⟩ := h
    cases hresult : (accessors g options holder properties).result with
    | error failure =>
      rw [hresult] at hfound
      cases hfound
    | ok texts =>
      have herrors : ∀ d ∈ (accessors g options holder properties).diagnostics, IsFault d := by
        intro d hd
        obtain ⟨p, -, hfault⟩ := faultOf?_of_accessors hsound hresolves d hd
        exact isFault_of_faultOf? hfault
      rw [hresult] at hfound
      cases texts with
      | none =>
        cases hfound
        obtain ⟨hpolicy, hd⟩ := accessors_eq_none hsound hresolves hresult
        exact .inr ⟨hkind, herrors, .inr ⟨hpolicy, rfl, hd⟩⟩
      | some texts =>
        obtain ⟨file, hfile, rfl⟩ := map_eq_ok_iff.1 hfound
        obtain ⟨package, hpackage, hclass⟩ := fileDraft_cases hfile
        exact .inr ⟨hkind, herrors, .inl ⟨file, package, texts, rfl, hpackage, hclass⟩⟩
  · rw [draft_of_ne hkind] at h
    cases h
    exact .inl ⟨hkind, rfl, rfl⟩

/-- The file that a consistent holder drafts is its class, under its own name. -/
theorem classFile_of_draft (hsound : g.Sound) (hconsistent : g.isConsistent holder.id = .ok true)
    {ds : List Diagnostic} {file : Draft}
    (h : draft g options (.typeDecl holder) = ⟨ds, .ok (some file)⟩) :
    holder.kind = .interface ∧ options.package = .str file.package ∧ file.name = holder.name ∧
      ∃ texts, file.file = classFile options file.package holder texts := by
  rcases draft_cases hsound hconsistent h with ⟨-, -, hnone⟩ | ⟨hkind, -, hfound⟩
  · cases hnone
  · rcases hfound with ⟨_, package, texts, hsome, hpackage, hclass⟩ | ⟨-, hnone, -⟩
    · cases hsome
      have hsame : file.package = package :=
        congrArg (fun file : GeneratedFile => file.package) hclass
      have hname : file.name = holder.name := congrArg (fun file : GeneratedFile => file.name) hclass
      subst hsame
      exact ⟨hkind, hpackage, hname, texts, hclass⟩
    · cases hnone

/-- The text of a draft, if there is one, has an encoding. -/
def Encodable (found : Option Draft) : Prop :=
  ∀ draft, found = some draft → draft.content.isUnicode = true

theorem Encodable.orEmpty_eq (h : Encodable found) :
    (found.map fun draft => draft.file.orEmpty) = found.map Draft.file := by
  cases found with
  | none => rfl
  | some draft => exact congrArg some (GeneratedFile.orEmpty_of_isUnicode (h draft rfl))

theorem draft?_eq {d : Declaration} {ds : List Diagnostic} (h : draft g options d = ⟨ds, .ok found⟩) :
    draft? g options d = found := by
  rw [draft?, h]

end Holder

/-- The class of a holder has no encoding. -/
def SymbolGraph.HasUnencodable (g : SymbolGraph) (options : Options) (holder : TypeDecl) : Prop :=
  ∃ draft, Holder.draft? g options (.typeDecl holder) = some draft ∧ draft.content.isUnicode = false

theorem SymbolGraph.not_hasUnencodable_iff {g : SymbolGraph} {options : Options}
    {holder : TypeDecl} : ¬ g.HasUnencodable options holder ↔
      Holder.Encodable (Holder.draft? g options (.typeDecl holder)) := by
  simp [SymbolGraph.HasUnencodable, Holder.Encodable]

/-- Only an interface has a class. -/
theorem SymbolGraph.HasUnencodable.kind_eq {g : SymbolGraph} {options : Options} {holder : TypeDecl}
    (h : g.HasUnencodable options holder) : holder.kind = .interface := by
  obtain ⟨draft, hdraft, -⟩ := h
  by_contra hkind
  rw [Holder.draft?_eq (Holder.draft_of_ne hkind)] at hdraft
  cases hdraft

namespace Workspace

open Holder

variable {g : SymbolGraph} {options : Options} {holder : TypeDecl} {w w' : Workspace}

/-- Where the generation of a declaration returns, its draft is left, if there is one; and its text has
an encoding. -/
theorem generate_cases {d : Declaration} (h : w.generate g options d = (w', .ok ())) :
    ∃ ds found, Holder.draft g options d = ⟨ds, .ok found⟩ ∧
      ((found = none ∧ w' = ⟨w.sink, w.diagnostics ++ ds⟩) ∨
        ∃ draft, found = some draft ∧ draft.content.isUnicode = true ∧
          w.sink.created.lookup (draft.package, draft.name) = none ∧
          w' = ⟨w.sink.holding draft.file, w.diagnostics ++ ds⟩) := by
  rw [generate] at h
  rcases hdraft : Holder.draft g options d with ⟨ds, failure | found⟩
  · rw [hdraft] at h
    cases h
  · rw [hdraft] at h
    refine ⟨ds, found, rfl, ?_⟩
    cases found with
    | none =>
      cases h
      exact .inl ⟨rfl, rfl⟩
    | some draft =>
      cases hname : w.sink.created.lookup (draft.package, draft.name) with
      | some path =>
        rw [absorb_of_created hname] at h
        cases h
      | none =>
        rw [absorb_of_new hname] at h
        have hunicode := (Sink.putting_eq_ok_iff.1 (congrArg Prod.snd h)).2
        exact .inr ⟨draft, rfl, hunicode, hname, (congrArg Prod.fst h).symm⟩

/-- What a holder leaves on its own, in a workspace without files and reports. -/
def alone (disk : Option Disk) (g : SymbolGraph) (options : Options) (holder : TypeDecl) :
    Workspace :=
  (generate { sink := { disk := disk } } g options (.typeDecl holder)).1

/-- On its own a holder leaves its reports, and its file if it has one. -/
theorem alone_eq {ds : List Diagnostic} {found : Option Draft}
    (h : Holder.draft g options (.typeDecl holder) = ⟨ds, .ok found⟩) (disk : Option Disk) :
    (alone disk g options holder).sink.files =
        (found.map fun draft => draft.file.orEmpty).toList ∧
      (alone disk g options holder).diagnostics = ds := by
  rw [alone, generate, h]
  cases found with
  | none => exact ⟨rfl, rfl⟩
  | some draft =>
    rw [absorb_of_new rfl]
    exact ⟨rfl, rfl⟩

/-- On its own a holder that has a draft with an encoding is generated, where there is no disk to
refuse its file. -/
theorem generate_alone_returns {ds : List Diagnostic} {found : Option Draft}
    (h : Holder.draft g options (.typeDecl holder) = ⟨ds, .ok found⟩) (hunicode : Encodable found) :
    (({} : Workspace).generate g options (.typeDecl holder)).2 = .ok () := by
  rw [generate, h]
  cases found with
  | none => rfl
  | some draft =>
    rw [absorb_of_new rfl]
    have hput : ({} : Sink).putting draft.file = .ok () :=
      Sink.putting_eq_ok_iff.2 ⟨rfl, hunicode draft rfl⟩
    exact hput

/-- Whatever was left before, a holder adds what it leaves on its own. -/
theorem generate_eq_alone (h : w.generate g options (.typeDecl holder) = (w', .ok ()))
    (disk : Option Disk) :
    w'.sink = (alone disk g options holder).sink.files.foldl Sink.holding w.sink ∧
      w'.diagnostics = w.diagnostics ++ (alone disk g options holder).diagnostics := by
  obtain ⟨ds, found, hdraft, hfound⟩ := generate_cases h
  obtain ⟨hfiles, hdiagnostics⟩ := alone_eq hdraft disk
  rw [hfiles, hdiagnostics]
  rcases hfound with ⟨rfl, rfl⟩ | ⟨draft, rfl, hunicode, -, rfl⟩
  · exact ⟨rfl, rfl⟩
  · rw [Option.map_some, GeneratedFile.orEmpty_of_isUnicode hunicode]
    exact ⟨rfl, rfl⟩

/-- A holder that can be told to be ready or not, and that has a draft if it is. -/
structure Draftable (g : SymbolGraph) (options : Options) (holder : TypeDecl) : Prop where
  consistent : g.isConsistent holder.id = .ok (g.isReady holder)
  drafted : g.isReady holder = true →
    ∃ ds found, Holder.draft g options (.typeDecl holder) = ⟨ds, .ok found⟩

theorem Draftable.isConsistent (h : Draftable g options holder) (hready : g.isReady holder = true) :
    g.isConsistent holder.id = .ok true :=
  hready ▸ h.consistent

/-- A holder that a pass can go through. Its class, if it has one, has an encoding. -/
structure Passable (g : SymbolGraph) (options : Options) (holder : TypeDecl) : Prop
    extends Draftable g options holder where
  encodable : g.isReady holder = true → ¬ g.HasUnencodable options holder

/-- Such a holder has a draft with an encoding, if it is ready. -/
theorem Passable.exists_draft (h : Passable g options holder) (hready : g.isReady holder = true) :
    ∃ ds found, Holder.draft g options (.typeDecl holder) = ⟨ds, .ok found⟩ ∧ Encodable found := by
  obtain ⟨ds, found, hdraft⟩ := h.drafted hready
  exact ⟨ds, found, hdraft,
    draft?_eq hdraft ▸ SymbolGraph.not_hasUnencodable_iff.1 (h.encodable hready)⟩

theorem passable_of_deferred (hconsistent : g.isConsistent holder.id = .ok false) :
    Passable g options holder := by
  have hready : g.isReady holder = false := by rw [SymbolGraph.isReady, hconsistent]
  exact ⟨⟨by rw [hready, hconsistent], by simp [hready]⟩, by simp [hready]⟩

/-- What a consistent holder was generated to had an encoding. -/
theorem passable_of_generate (hconsistent : g.isConsistent holder.id = .ok true)
    (h : w.generate g options (.typeDecl holder) = (w', .ok ())) : Passable g options holder := by
  have hready : g.isReady holder = true := by rw [SymbolGraph.isReady, hconsistent]
  obtain ⟨ds, found, hdraft, hfound⟩ := generate_cases h
  have hunicode : Encodable found := by
    rintro draft rfl
    obtain ⟨hnone, -⟩ | ⟨_, hsome, hunicode, -⟩ := hfound
    · cases hnone
    · cases hsome
      exact hunicode
  exact ⟨⟨by rw [hready, hconsistent], fun _ => ⟨ds, found, hdraft⟩⟩,
    fun _ => SymbolGraph.not_hasUnencodable_iff.2 (draft?_eq hdraft ▸ hunicode)⟩

/-- A run over some holders leaves what each ready one leaves on its own, and defers the others. -/
theorem processAll_eq {holders deferred : List TypeDecl}
    (h : processAll g options holders w = (w', .ok deferred)) (disk : Option Disk) :
    (∀ holder ∈ holders, Passable g options holder) ∧
    deferred = holders.filter (fun holder => !g.isReady holder) ∧
    w'.sink = ((holders.filter g.isReady).flatMap fun holder =>
      (alone disk g options holder).sink.files).foldl Sink.holding w.sink ∧
    w'.diagnostics = w.diagnostics ++ (holders.filter g.isReady).flatMap fun holder =>
      (alone disk g options holder).diagnostics := by
  induction holders generalizing w w' deferred with
  | nil =>
    cases h
    simp
  | cons holder rest ih =>
    rw [processAll] at h
    cases hconsistent : g.isConsistent holder.id with
    | error failure =>
      rw [hconsistent] at h
      cases h
    | ok ready =>
      have hready : g.isReady holder = ready := by rw [SymbolGraph.isReady, hconsistent]
      rw [hconsistent] at h
      cases ready with
      | false =>
        -- the holder is deferred, and the workspace is left as it was
        rcases hrest : processAll g options rest w with ⟨w₁, failure | further⟩
        · simp only [hrest] at h
          cases h
        · simp only [hrest] at h
          cases h
          obtain ⟨hall, rfl, hsink, hdiagnostics⟩ := ih hrest
          exact ⟨List.forall_mem_cons.2 ⟨passable_of_deferred hconsistent, hall⟩, by simp [hready],
            by simpa [hready] using hsink, by simpa [hready] using hdiagnostics⟩
      | true =>
        -- the holder adds what it leaves on its own, and the others add to that
        rcases hgenerate : w.generate g options (.typeDecl holder) with ⟨w₁, failure | u⟩
        · simp only [hgenerate] at h
          cases h
        · simp only [hgenerate] at h
          obtain ⟨hall, rfl, hsink, hdiagnostics⟩ := ih h
          obtain ⟨hsink₁, hdiagnostics₁⟩ := generate_eq_alone hgenerate disk
          refine ⟨List.forall_mem_cons.2 ⟨passable_of_generate hconsistent hgenerate, hall⟩,
            by simp [hready], ?_, ?_⟩
          · rw [List.filter_cons_of_pos hready, List.flatMap_cons, List.foldl_append, ← hsink₁, hsink]
          · rw [List.filter_cons_of_pos hready, List.flatMap_cons, ← List.append_assoc,
              ← hdiagnostics₁, hdiagnostics]

/-- In a workspace without a disk, a holder with a draft is generated, or its name is taken, or its
class has no encoding. -/
theorem generate_total (hdisk : w.sink.disk = none) {ds : List Diagnostic} {found : Option Draft}
    (h : Holder.draft g options (.typeDecl holder) = ⟨ds, .ok found⟩) :
    (∃ w', w.generate g options (.typeDecl holder) = (w', .ok ()) ∧ w'.sink.disk = none) ∨
    (∃ w' path, w.generate g options (.typeDecl holder) = (w', .error (.existingFile path))) ∨
      ∃ w', w.generate g options (.typeDecl holder) = (w', .error .unencodable) ∧
        g.HasUnencodable options holder := by
  rw [generate, h]
  cases found with
  | none => exact .inl ⟨_, rfl, hdisk⟩
  | some draft =>
    cases hname : w.sink.created.lookup (draft.package, draft.name) with
    | some path => exact .inr (.inl ⟨_, path, absorb_of_created hname⟩)
    | none =>
      rw [absorb_of_new hname]
      have htaken := w.sink.taking_of_disk_eq_none hdisk draft.file
      cases hunicode : draft.content.isUnicode with
      | false =>
        have hput : w.sink.putting draft.file = .error .unencodable :=
          Sink.putting_eq_error_iff.2 (.inr ⟨htaken, hunicode, rfl⟩)
        exact .inr (.inr ⟨_, by rw [hput], draft, draft?_eq h, hunicode⟩)
      | true =>
        -- the file is taken, and there is still no disk
        have hput : w.sink.putting draft.file = .ok () :=
          Sink.putting_eq_ok_iff.2 ⟨htaken, hunicode⟩
        exact .inl ⟨_, by rw [hput], by simp [Sink.holding, hdisk]⟩

/-- In a workspace without a disk, a run over holders with drafts returns, or a name is taken, or a
class has no encoding. -/
theorem processAll_total {holders : List TypeDecl} (hdisk : w.sink.disk = none)
    (hall : ∀ holder ∈ holders, Draftable g options holder) :
    (∃ w' deferred, processAll g options holders w = (w', .ok deferred)) ∨
    (∃ w' path, processAll g options holders w = (w', .error (.existingFile path))) ∨
      ∃ w', processAll g options holders w = (w', .error .unencodable) ∧
        ∃ holder ∈ holders.filter g.isReady, g.HasUnencodable options holder := by
  induction holders generalizing w with
  | nil => exact .inl ⟨w, [], rfl⟩
  | cons holder rest ih =>
    obtain ⟨⟨hconsistent, hdraft⟩, hall⟩ := List.forall_mem_cons.1 hall
    rw [processAll, hconsistent]
    cases hready : g.isReady holder with
    | false =>
      rw [List.filter_cons_of_neg (by simp [hready])]
      rcases ih hdisk hall with ⟨w', deferred, hrest⟩ | ⟨w', path, hrest⟩ | ⟨w', hrest, hfound⟩
      · exact .inl ⟨w', holder :: deferred, by simp [hrest, Except.map]⟩
      · exact .inr (.inl ⟨w', path, by simp [hrest, Except.map]⟩)
      · exact .inr (.inr ⟨w', by simp [hrest, Except.map], hfound⟩)
    | true =>
      rw [List.filter_cons_of_pos hready]
      obtain ⟨ds, found, hdraft⟩ := hdraft hready
      rcases generate_total hdisk hdraft with
        ⟨w₁, hgenerate, hdisk⟩ | ⟨w₁, path, hgenerate⟩ | ⟨w₁, hgenerate, hunencodable⟩
      · simp only [hgenerate]
        refine (ih hdisk hall).imp_right (Or.imp_right ?_)
        rintro ⟨w', hfails, other, hother, hunencodable⟩
        exact ⟨w', hfails, other, List.mem_cons_of_mem _ hother, hunencodable⟩
      · exact .inr (.inl ⟨w₁, path, by simp only [hgenerate]⟩)
      · exact .inr (.inr ⟨w₁, by simp only [hgenerate], holder, List.mem_cons_self, hunencodable⟩)

theorem nodup_holders (h : g.Declared) : (g.holders.map TypeDecl.id).Nodup :=
  h.nodup_typeDecls.sublist ((List.filter_sublist (l := g.typeDecls)).map TypeDecl.id)

/-- Files that are put one after another come behind those that were there. -/
theorem files_foldl_holding (files : List GeneratedFile) (s : Sink) :
    (files.foldl Sink.holding s).files = s.files ++ files.map GeneratedFile.orEmpty := by
  induction files generalizing s with
  | nil => simp
  | cons file rest ih =>
    rw [List.foldl_cons, ih, Sink.holding, List.append_assoc]
    rfl

/-- What a holder leaves on its own is committed as it is. -/
theorem orEmpty_of_mem_alone {disk : Option Disk} {file : GeneratedFile}
    (h : file ∈ (alone disk g options holder).sink.files) : file.orEmpty = file := by
  rcases hdraft : Holder.draft g options (.typeDecl holder) with ⟨ds, failure | found⟩
  · rw [alone, generate, hdraft] at h
    cases h
  · rw [(alone_eq hdraft disk).1, Option.mem_toList, Option.map_eq_some_iff] at h
    obtain ⟨draft, -, rfl⟩ := h
    exact GeneratedFile.orEmpty_of_isUnicode draft.file.isUnicode_orEmpty

/-- The files behind a run over some holders are those that the ready ones leave on their own. -/
theorem files_processAll {holders deferred : List TypeDecl}
    (h : processAll g options holders w = (w', .ok deferred)) (disk : Option Disk) :
    w'.sink.files = w.sink.files ++ (holders.filter g.isReady).flatMap fun holder =>
      (alone disk g options holder).sink.files := by
  obtain ⟨-, -, hsink, -⟩ := processAll_eq h disk
  have hall : ∀ file ∈ (holders.filter g.isReady).flatMap fun holder =>
      (alone disk g options holder).sink.files, file.orEmpty = file := by
    intro file hfile
    obtain ⟨holder, -, hfile⟩ := List.mem_flatMap.1 hfile
    exact orEmpty_of_mem_alone hfile
  rw [hsink, files_foldl_holding, (List.map_congr_left hall).trans (List.map_id' _)]

/-- **A pass is the concatenation of its holders, and loses none.** The holders are the types of the
graph that are marked as such, in the order of the nodes, and each comes up once. The inconsistent
ones are deferred, in order. What the pass adds to the files and the diagnostics is what the others
leave on their own, in order: a holder that is no interface one warning; an interface its file and the
errors of its properties, or, where a fault ends its class, that error alone. -/
theorem process_eq_concatenation {v : Value} (hread : Document.read v = .ok g)
    {deferred : List TypeDecl} (h : w.process g options = (w', .ok deferred))
    (disk : Option Disk) :
    let ready := g.holders.filter g.isReady
    let files := ready.flatMap fun holder => (alone disk g options holder).sink.files
    let diagnostics := ready.flatMap fun holder => (alone disk g options holder).diagnostics
    (g.holders.map TypeDecl.id).Sublist (g.nodes.map Node.id) ∧
    (∀ holder, holder ∈ g.holders ↔ g.declaration? holder.id = some (.typeDecl holder) ∧
      ∃ a ∈ holder.annotations, a.typeName = Vocabulary.preferencesMarker) ∧
    (g.holders.map TypeDecl.id).Nodup ∧
    deferred = g.holders.filter (fun holder => !g.isReady holder) ∧
    w'.sink = files.foldl Sink.holding w.sink ∧
    w'.sink.files = w.sink.files ++ files ∧
    w'.diagnostics = w.diagnostics ++ diagnostics ∧
    ∀ holder ∈ g.holders, g.isConsistent holder.id = .ok (g.isReady holder) ∧
      (g.isReady holder = true →
        let left := alone disk g options holder
        (({} : Workspace).generate g options (.typeDecl holder)).2 = .ok () ∧
        ((holder.kind ≠ .interface ∧ left.sink.files = [] ∧
            left.diagnostics = [notInterface holder]) ∨
          (holder.kind = .interface ∧ (∀ d ∈ left.diagnostics, d.severity = .error) ∧
            ((∃ package texts, options.package = .str package ∧
                left.sink.files = [classFile options package holder texts]) ∨
              (options.policy = .aborted ∧ left.sink.files = [] ∧
                ∃ d, left.diagnostics = [d]))))) := by
  have hsound := Document.read_sound hread
  obtain ⟨hall, hdeferred, hsink, hdiagnostics⟩ := processAll_eq h disk
  refine ⟨hsound.declared.ids_holders_sublist, fun holder => hsound.declared.mem_holders_iff,
    nodup_holders hsound.declared, hdeferred, hsink, files_processAll h disk, hdiagnostics, ?_⟩
  intro holder hmem
  have hpassable := hall holder hmem
  refine ⟨hpassable.consistent, fun hready => ?_⟩
  obtain ⟨ds, found, hdraft, hunicode⟩ := hpassable.exists_draft hready
  obtain ⟨hfiles, hleft⟩ := alone_eq hdraft disk
  rw [hunicode.orEmpty_eq] at hfiles
  refine ⟨generate_alone_returns hdraft hunicode, ?_⟩
  rcases draft_cases hsound (hpassable.isConsistent hready) hdraft with
    ⟨hkind, hds, rfl⟩ | ⟨hkind, hfaults, hfound⟩
  · exact .inl ⟨hkind, hfiles, hleft.trans hds⟩
  · refine .inr ⟨hkind, fun d hd => (hfaults d (hleft ▸ hd)).1, ?_⟩
    rcases hfound with ⟨file, package, texts, rfl, hpackage, hclass⟩ | ⟨hpolicy, rfl, d, hd⟩
    · exact .inl ⟨package, texts, hpackage, by rw [hfiles, ← hclass]; rfl⟩
    · exact .inr ⟨hpolicy, hfiles, d, hleft.trans hd⟩

/-- A pass over the sample, in which a fault ends the class of the first holder. -/
theorem process_sample : ∃ w' deferred,
    ({} : Workspace).process Sample.graph { Sample.options with policy := .aborted } =
      (w', .ok deferred) ∧
    deferred = Sample.graph.holders.filter (fun holder => !Sample.graph.isReady holder) ∧
    w'.diagnostics = (Sample.graph.holders.filter Sample.graph.isReady).flatMap fun holder =>
      (alone none Sample.graph { Sample.options with policy := .aborted } holder).diagnostics := by
  have hreturns : (({} : Workspace).process Sample.graph
      { Sample.options with policy := .aborted }).2.toOption.isSome = true := by decide +kernel
  rcases hprocess : ({} : Workspace).process Sample.graph
    { Sample.options with policy := .aborted } with ⟨w', failure | deferred⟩
  · rw [hprocess] at hreturns
    cases hreturns
  · obtain ⟨-, -, -, hdeferred, -, -, hdiagnostics, -⟩ :=
      process_eq_concatenation Sample.read_document hprocess none
    exact ⟨w', deferred, rfl, hdeferred, hdiagnostics⟩

end Workspace

end KotlinPreferences
