import KotlinPreferences.Proofs.Pass.Concatenation

/-!
# What a failing holder leaves of its siblings

A pass ends at the first holder that fails. The files of the holders before it stay, and those of
the holders behind it do not come up, although each of them would commit its file on its own.

* `Sink.Names`: what the names of all files of a sink have in common;
* `Workspace.sink_generate_cases`, `Workspace.sink_generate`: a declaration adds at most its draft,
  and a holder at most a file under its own name;
* `Workspace.processAll_invariant`: what each ready holder preserves, a run over some holders does,
  whether it returns or not;
* `Workspace.exists_draft_of_mem_processAll`: where the files behind a run come from;
* `Workspace.FailsIn`, `Workspace.exists_of_processAll_error`: the holder at which a run fails;
* `Workspace.mem_files_process_iff`: a pass commits the file of a holder exactly where no holder
  before it fails;
* `Workspace.process_of_onlyDraft?`: what a pass over a single holder leaves;
* `Workspace.process_siblings_last`: a pass that loses a file.
-/

namespace KotlinPreferences

namespace Sink

variable {p : Text → Prop} {s : Sink} {file : GeneratedFile}

/-- The files committed and the files handed out have names of some kind only. -/
structure Names (p : Text → Prop) (s : Sink) : Prop where
  files : ∀ file ∈ s.files, p file.name
  created : ∀ entry ∈ s.created, p entry.1.2

theorem Names.empty (p : Text → Prop) (disk : Option Disk) : Names p { disk := disk } :=
  ⟨by simp, by simp⟩

theorem Names.holding (h : Names p s) (hname : p file.name) : Names p (s.holding file) where
  files other hother := by
    rcases List.mem_append.1 hother with hold | hnew
    · exact h.files other hold
    · rw [List.mem_singleton.1 hnew, GeneratedFile.toFileHeader_orEmpty]
      exact hname
  created entry hentry := by
    rcases List.mem_append.1 hentry with hold | hnew
    · exact h.created entry hold
    · rw [List.mem_singleton.1 hnew]
      exact hname

/-- A name that no file has is free in every package. -/
theorem Names.lookup_eq_none {name : Text} (h : Names (· ≠ name) s) (package : Text) :
    s.created.lookup (package, name) = none := by
  rw [List.lookup_eq_none_iff]
  intro entry hentry
  have hne : name ≠ entry.1.2 := (h.created entry hentry).symm
  simp [Prod.ext_iff, hne]

end Sink

namespace Workspace

open Holder

variable {g : SymbolGraph} {options : Options} {holder : TypeDecl} {holders : List TypeDecl}
  {w w' : Workspace} {file : GeneratedFile}

/-! ### One holder -/

/-- Whether its generation returns or not, a declaration leaves the sink as it was, or adds its
draft. -/
theorem sink_generate_cases (g : SymbolGraph) (options : Options) (d : Declaration) (w : Workspace) :
    (w.generate g options d).1.sink = w.sink ∨
      ∃ ds draft, Holder.draft g options d = ⟨ds, .ok (some draft)⟩ ∧
        (w.generate g options d).1.sink = w.sink.holding draft.file := by
  rw [generate]
  rcases Holder.draft g options d with ⟨ds, failure | _ | draft⟩
  · exact .inl rfl
  · exact .inl rfl
  · cases hname : w.sink.created.lookup (draft.package, draft.name) with
    | some path =>
      rw [absorb_of_created hname]
      exact .inl rfl
    | none =>
      rw [absorb_of_new hname]
      exact .inr ⟨ds, draft, rfl, rfl⟩

/-- Whether its generation returns or not, a holder leaves the sink as it was, or it is an interface
and adds a file under its name. -/
theorem sink_generate (hsound : g.Sound) (hconsistent : g.isConsistent holder.id = .ok true)
    (w : Workspace) :
    (w.generate g options (.typeDecl holder)).1.sink = w.sink ∨
      holder.kind = .interface ∧ ∃ file : GeneratedFile, file.name = holder.name ∧
        (w.generate g options (.typeDecl holder)).1.sink = w.sink.holding file := by
  refine (sink_generate_cases g options (.typeDecl holder) w).imp id ?_
  rintro ⟨ds, draft, hdraft, hholding⟩
  obtain ⟨hkind, -, hname, -⟩ := classFile_of_draft hsound hconsistent hdraft
  exact ⟨hkind, draft.file, hname, hholding⟩

/-- A file that a holder commits on its own is its draft. -/
theorem draft_of_mem_alone {disk : Option Disk} (h : file ∈ (alone disk g options holder).sink.files) :
    ∃ ds draft, Holder.draft g options (.typeDecl holder) = ⟨ds, .ok (some draft)⟩ ∧
      draft.file.orEmpty = file := by
  rcases sink_generate_cases g options (.typeDecl holder) { sink := { disk := disk } } with
    hsame | ⟨ds, draft, hdraft, hholding⟩
  · rw [alone, hsame] at h
    cases h
  · rw [alone, hholding] at h
    exact ⟨ds, draft, hdraft, (List.mem_singleton.1 h).symm⟩

/-- A file that a holder commits on its own has its name. -/
theorem name_of_mem_alone {disk : Option Disk} (hsound : g.Sound)
    (hconsistent : g.isConsistent holder.id = .ok true)
    (h : file ∈ (alone disk g options holder).sink.files) : file.name = holder.name := by
  have hleft := @sink_generate g options holder hsound hconsistent { sink := { disk := disk } }
  rcases hleft with hsame | ⟨-, other, hname, hholding⟩
  · rw [alone, hsame] at h
    cases h
  · rw [alone, hholding] at h
    rw [List.mem_singleton.1 h, GeneratedFile.toFileHeader_orEmpty, hname]

/-- A holder with a draft commits a file on its own. -/
theorem exists_mem_alone (h : (Holder.draft? g options (.typeDecl holder)).isSome = true)
    (disk : Option Disk) : ∃ file, file ∈ (alone disk g options holder).sink.files := by
  obtain ⟨draft, hdraft⟩ := Option.isSome_iff_exists.1 h
  obtain ⟨ds, hgenerate⟩ := generate_of_draft? (w := { sink := { disk := disk } }) hdraft rfl
  exact ⟨draft.file.orEmpty, by rw [alone, hgenerate]; exact List.mem_singleton_self _⟩

/-- In a workspace in which its name is free, a holder commits the file that it commits on its
own. -/
theorem mem_files_generate {disk : Option Disk} (h : file ∈ (alone disk g options holder).sink.files)
    (hfree : ∀ package, w.sink.created.lookup (package, file.name) = none) :
    file ∈ (w.generate g options (.typeDecl holder)).1.sink.files := by
  obtain ⟨ds, draft, hdraft, rfl⟩ := draft_of_mem_alone h
  rw [GeneratedFile.toFileHeader_orEmpty] at hfree
  rw [generate, hdraft, absorb_of_new (hfree draft.package)]
  exact List.mem_append_right _ (List.mem_singleton_self _)

/-! ### Runs -/

/-- What each ready holder preserves, a run over some holders preserves, whether it returns or
not. -/
theorem processAll_invariant {P : Workspace → Prop}
    (hstep : ∀ holder ∈ holders, g.isConsistent holder.id = .ok true →
      ∀ w, P w → P (w.generate g options (.typeDecl holder)).1)
    (h : P w) : P (processAll g options holders w).1 := by
  induction holders generalizing w with
  | nil => exact h
  | cons holder rest ih =>
    have hrest : ∀ w, P w → P (processAll g options rest w).1 := fun w hw =>
      ih (fun other hother => hstep other (List.mem_cons_of_mem _ hother)) hw
    rw [processAll]
    cases hconsistent : g.isConsistent holder.id with
    | error failure => exact h
    | ok ready =>
      cases ready with
      | false => exact hrest w h
      | true =>
        have hgenerated := hstep holder List.mem_cons_self hconsistent w h
        rcases hgenerate : w.generate g options (.typeDecl holder) with ⟨w₁, failure | u⟩
        · rw [hgenerate] at hgenerated
          exact hgenerated
        · rw [hgenerate] at hgenerated
          exact hrest w₁ hgenerated

/-- A run over some holders uses the names of interfaces among them only. -/
theorem names_processAll (hsound : g.Sound) {p : Text → Prop} (h : w.sink.Names p)
    (hnames : ∀ holder ∈ holders, g.isReady holder = true → holder.kind = .interface →
      p holder.name) :
    (processAll g options holders w).1.sink.Names p := by
  refine processAll_invariant (P := fun w => w.sink.Names p) ?_ h
  intro holder hmem hconsistent w hw
  have hready := SymbolGraph.isReady_iff.2 hconsistent
  rcases sink_generate hsound hconsistent w with hsame | ⟨hkind, file, hname, hholding⟩
  · rw [hsame]
    exact hw
  · rw [hholding]
    exact hw.holding (hname ▸ hnames holder hmem hready hkind)

/-- A run over some holders keeps the files that are committed. -/
theorem mem_files_processAll (hsound : g.Sound) (h : file ∈ w.sink.files) :
    file ∈ (processAll g options holders w).1.sink.files := by
  refine processAll_invariant (P := fun w => file ∈ w.sink.files) ?_ h
  intro holder _ hconsistent w hw
  rcases sink_generate hsound hconsistent w with hsame | ⟨-, other, -, hholding⟩
  · rw [hsame]
    exact hw
  · rw [hholding]
    exact List.mem_append_left _ hw

/-- A file behind a run over some holders was there before, or it is the draft of a ready interface
among them. -/
theorem exists_draft_of_mem_processAll (hsound : g.Sound)
    (h : file ∈ (processAll g options holders w).1.sink.files) :
    file ∈ w.sink.files ∨ ∃ holder ∈ g.readyInterfaces holders, ∃ ds draft,
      Holder.draft g options (.typeDecl holder) = ⟨ds, .ok (some draft)⟩ ∧
        draft.file.orEmpty = file := by
  refine processAll_invariant (P := fun w' => ∀ file ∈ w'.sink.files, file ∈ w.sink.files ∨
    ∃ holder ∈ g.readyInterfaces holders, ∃ ds draft,
      Holder.draft g options (.typeDecl holder) = ⟨ds, .ok (some draft)⟩ ∧
        draft.file.orEmpty = file)
    ?_ (fun file hfile => .inl hfile) file h
  intro holder hmem hconsistent w₁ hw file hfile
  rcases sink_generate_cases g options (.typeDecl holder) w₁ with
    hsame | ⟨ds, draft, hdraft, hholding⟩
  · exact hw file (hsame ▸ hfile)
  · rw [hholding] at hfile
    rcases List.mem_append.1 hfile with hold | hnew
    · exact hw file hold
    · have hkind := (classFile_of_draft hsound hconsistent hdraft).1
      have hready := SymbolGraph.isReady_iff.2 hconsistent
      exact .inr ⟨holder, SymbolGraph.mem_readyInterfaces.2 ⟨hmem, hready, hkind⟩, ds, draft,
        hdraft, (List.mem_singleton.1 hnew).symm⟩

/-- A run goes through some holders, and then through others, unless it fails before. -/
theorem processAll_append (first second : List TypeDecl) (w : Workspace) :
    processAll g options (first ++ second) w =
      match processAll g options first w with
      | (w', .error failure) => (w', .error failure)
      | (w', .ok deferred) =>
        ((processAll g options second w').1,
          (processAll g options second w').2.map (deferred ++ ·)) := by
  induction first generalizing w with
  | nil =>
    have hnil : processAll g options [] w = (w, .ok []) := by rw [processAll]
    simp only [List.nil_append, hnil]
    rcases processAll g options second w with ⟨w', failure | deferred⟩
    · rfl
    · rfl
  | cons holder rest ih =>
    rw [List.cons_append, processAll, processAll]
    cases g.isConsistent holder.id with
    | error failure => rfl
    | ok ready =>
      cases ready with
      | false =>
        simp only [ih]
        rcases processAll g options rest w with ⟨w', failure | deferred⟩
        · rfl
        · simp only [Except.map]
          cases (processAll g options second w').2 <;> rfl
      | true =>
        rcases w.generate g options (.typeDecl holder) with ⟨w', failure | u⟩
        · rfl
        · exact ih w'

theorem processAll_append_of_ok {first deferred : List TypeDecl}
    (h : processAll g options first w = (w', .ok deferred)) (second : List TypeDecl) :
    processAll g options (first ++ second) w = ((processAll g options second w').1,
      (processAll g options second w').2.map (deferred ++ ·)) := by
  rw [processAll_append, h]

theorem processAll_append_of_error {first : List TypeDecl} {failure : Failure}
    (h : processAll g options first w = (w', .error failure)) (second : List TypeDecl) :
    processAll g options (first ++ second) w = (w', .error failure) := by
  rw [processAll_append, h]

/-- The holder at which a run over some holders fails: the run comes to it, and ends there. -/
def FailsIn (g : SymbolGraph) (options : Options) (w : Workspace) (holders : List TypeDecl)
    (holder : TypeDecl) : Prop :=
  ∃ done left w' deferred failure, holders = done ++ holder :: left ∧
    processAll g options done w = (w', .ok deferred) ∧
    (processAll g options [holder] w').2 = .error failure

/-- A run that fails has gone through some of its holders and fails at the next one. -/
theorem exists_of_processAll_error {failure : Failure}
    (h : (processAll g options holders w).2 = .error failure) :
    ∃ done holder left w' deferred, holders = done ++ holder :: left ∧
      processAll g options done w = (w', .ok deferred) ∧
      (processAll g options [holder] w').2 = .error failure := by
  induction holders generalizing w with
  | nil => cases h
  | cons holder rest ih =>
    rcases hholder : processAll g options [holder] w with ⟨w₁, failure' | deferred⟩
    · rw [← List.singleton_append, processAll_append_of_error hholder] at h
      exact ⟨[], holder, rest, w, [], rfl, rfl, by rw [hholder]; exact h⟩
    · -- the run goes on behind the first holder, and fails there
      rw [← List.singleton_append, processAll_append_of_ok hholder] at h
      obtain ⟨done, other, left, w₂, further, rfl, hdone, hfails⟩ := ih (map_eq_error_iff.1 h)
      refine ⟨holder :: done, other, left, w₂, deferred ++ further, rfl, ?_, hfails⟩
      rw [← List.singleton_append, processAll_append_of_ok hholder, hdone]
      rfl

/-- A run fails at one of its holders, if it fails. -/
theorem exists_failsIn_iff : (∃ holder, FailsIn g options w holders holder) ↔
    ∃ failure, (processAll g options holders w).2 = .error failure := by
  constructor
  · rintro ⟨holder, done, left, w', deferred, failure, rfl, hdone, hfails⟩
    refine ⟨failure, ?_⟩
    have hholder : processAll g options [holder] w' =
        ((processAll g options [holder] w').1, .error failure) := Prod.ext rfl hfails
    rw [processAll_append_of_ok hdone, ← List.singleton_append, processAll_append_of_error hholder]
    rfl
  · rintro ⟨failure, h⟩
    obtain ⟨done, holder, left, w', deferred, hsplit, hdone, hfails⟩ := exists_of_processAll_error h
    exact ⟨holder, done, left, w', deferred, failure, hsplit, hdone, hfails⟩

/-- **A pass commits the file of a holder exactly where no holder before it fails.** The holder is a
ready interface that commits the file on its own, and no ready interface before it shares its name.
Whatever the holders behind it do, the file stays; and a pass that returns has it. -/
theorem mem_files_process_iff {v : Value} (hread : Document.read v = .ok g) {disk : Option Disk}
    (hempty : w.sink = { disk := disk }) {before behind : List TypeDecl}
    (hholders : g.holders = before ++ holder :: behind) (hready : g.isReady holder = true)
    (hfile : file ∈ (alone disk g options holder).sink.files)
    (hnames : ∀ other ∈ before, g.isReady other = true → other.kind = .interface →
      other.name ≠ holder.name) :
    (file ∈ (w.process g options).1.sink.files ↔ ∀ other, ¬ FailsIn g options w before other) ∧
      ((∃ deferred, (w.process g options).2 = .ok deferred) →
        file ∈ (w.process g options).1.sink.files) := by
  have hsound := Document.read_sound hread
  have hconsistent := SymbolGraph.isReady_iff.1 hready
  have hname : file.name = holder.name := name_of_mem_alone hsound hconsistent hfile
  have hbefore : (processAll g options before w).1.sink.Names (· ≠ holder.name) :=
    names_processAll hsound (hempty ▸ Sink.Names.empty _ disk) hnames
  have hfails := not_exists.symm.trans (not_congr (@exists_failsIn_iff g options before w))
  rw [hfails, process, hholders]
  rcases hrun : processAll g options before w with ⟨w₁, failure | deferred⟩
  · -- the run ends before it comes to the holder, and no other file has its name
    rw [hrun] at hbefore
    rw [processAll_append_of_error hrun]
    refine ⟨⟨fun hmem => absurd hname (hbefore.files file hmem), fun hnone => ?_⟩, ?_⟩
    · exact absurd ⟨failure, rfl⟩ hnone
    · rintro ⟨_, hok⟩
      cases hok
  · rw [hrun] at hbefore
    have hmem : file ∈ (processAll g options (holder :: behind) w₁).1.sink.files := by
      have hgenerated : file ∈ (w₁.generate g options (.typeDecl holder)).1.sink.files :=
        mem_files_generate hfile fun package => hname ▸ hbefore.lookup_eq_none package
      rw [processAll, hconsistent]
      rcases hgenerate : w₁.generate g options (.typeDecl holder) with ⟨w₂, failure | u⟩
      · rw [hgenerate] at hgenerated
        exact hgenerated
      · rw [hgenerate] at hgenerated
        exact mem_files_processAll hsound hgenerated
    rw [processAll_append_of_ok hrun]
    refine ⟨⟨fun _ => ?_, fun _ => hmem⟩, fun _ => hmem⟩
    rintro ⟨failure, hfail⟩
    cases hfail

/-! ### A single holder -/

/-- The draft of the only holder of a graph, if it is ready. -/
def onlyDraft? (g : SymbolGraph) (options : Options) : Option Draft :=
  match g.holders with
  | [holder] => if g.isReady holder then Holder.draft? g options (.typeDecl holder) else none
  | _ => none

/-- A pass over a graph with one holder puts the file of its draft. -/
theorem process_of_onlyDraft? {draft : Draft} (h : onlyDraft? g options = some draft)
    (disk : Option Disk) :
    ∃ ds, ({ sink := { disk := disk } } : Workspace).process g options =
      (⟨({ disk := disk } : Sink).holding draft.file, ds⟩,
        (({ disk := disk } : Sink).putting draft.file).map fun _ => []) := by
  unfold onlyDraft? at h
  split at h
  · rename_i holder hholders
    split_ifs at h with hready
    obtain ⟨ds, hgenerate⟩ := generate_of_draft? (w := { sink := { disk := disk } }) h rfl
    refine ⟨ds, ?_⟩
    rw [process, hholders, processAll, SymbolGraph.isReady_iff.1 hready]
    simp only [hgenerate]
    rcases Sink.putting { disk := disk } draft.file with failure | u
    · rfl
    · rfl
  · cases h

/-- So it leaves this file. -/
theorem sink_process_of_onlyDraft? {draft : Draft} (h : onlyDraft? g options = some draft)
    (disk : Option Disk) :
    (({ sink := { disk := disk } } : Workspace).process g options).1.sink =
      ({ disk := disk } : Sink).holding draft.file := by
  obtain ⟨ds, hprocess⟩ := process_of_onlyDraft? h disk
  rw [hprocess]

theorem files_process_of_onlyDraft? {draft : Draft} (h : onlyDraft? g options = some draft)
    (hunicode : draft.content.isUnicode = true) (disk : Option Disk) :
    (({ sink := { disk := disk } } : Workspace).process g options).1.sink.files = [draft.file] := by
  have hfile : draft.file.orEmpty = draft.file := GeneratedFile.orEmpty_of_isUnicode hunicode
  rw [sink_process_of_onlyDraft? h disk, Sink.holding, hfile]
  rfl

/-- Where the draft has no encoding the pass fails. -/
theorem process_of_onlyDraft?_unencodable {draft : Draft} (h : onlyDraft? g options = some draft)
    (hunicode : draft.content.isUnicode = false) :
    ∃ ds, ({} : Workspace).process g options =
      (⟨({} : Sink).holding draft.file, ds⟩, .error .unencodable) := by
  have hput : ({} : Sink).putting draft.file = .error .unencodable :=
    Sink.putting_eq_error_iff.2 (.inr ⟨rfl, hunicode, rfl⟩)
  obtain ⟨ds, hprocess⟩ := process_of_onlyDraft? h none
  exact ⟨ds, by rw [hprocess, hput]; rfl⟩

end Workspace

/-! ### Three siblings -/

namespace Sample

/-- Three holders. The preference of the second one has a converter that declares no function to
read texts with. -/
def siblings : Value :=
  .obj
    [("nodes", .arr
      [node "first" "TypeDecl" [("name", .str "First"), ("kind", .str "interface"),
          ("annotations", holderMark)],
        node "failing" "TypeDecl" [("name", .str "Failing"), ("kind", .str "interface"),
          ("annotations", holderMark)],
        node "zone" "Property" [("name", .str "zone"), ("type", .str "kotlin.String"),
          ("annotations", preferenceMark [("key", .str "zone"), ("default", .str ""),
            ("converter", .str "Broken")])],
        node "broken" "TypeDecl" [("name", .str "Broken")],
        node "last" "TypeDecl" [("name", .str "Last"), ("kind", .str "interface"),
          ("annotations", holderMark)]]),
      ("edges", .arr [edge "failing" "zone" "HAS_PROPERTY"])]

/-- The graph of the three holders. -/
def siblingGraph : SymbolGraph := graphOf siblings

theorem read_siblings : Document.read siblings = .ok siblingGraph := read_graphOf (by decide +kernel)

/-- All three are ready; the first and the last commit a file on their own. -/
theorem holders_siblingGraph : ∃ first failing last, siblingGraph.holders = [first, failing, last] ∧
    (∀ holder ∈ [first, failing, last], siblingGraph.isReady holder = true) ∧
    first.name = "First" ∧ failing.name = "Failing" ∧ last.name = "Last" ∧
    (∃ file, file ∈ (Workspace.alone none siblingGraph options first).sink.files) ∧
    ∃ file, file ∈ (Workspace.alone none siblingGraph options last).sink.files := by
  have hnames : siblingGraph.holders.map (fun holder => (holder.name, siblingGraph.isReady holder,
      (Holder.draft? siblingGraph options (.typeDecl holder)).isSome)) =
      ([("First", true, true), ("Failing", true, false), ("Last", true, true)] :
        List (Text × Bool × Bool)) := by
    decide +kernel
  obtain ⟨first, rest, hholders, hfirst, hrest⟩ := List.map_eq_cons_iff.1 hnames
  obtain ⟨failing, rest, rfl, hfailing, hrest⟩ := List.map_eq_cons_iff.1 hrest
  obtain ⟨last, rest, rfl, hlast, hrest⟩ := List.map_eq_cons_iff.1 hrest
  cases List.map_eq_nil_iff.1 hrest
  simp only [Prod.mk.injEq] at hfirst hfailing hlast
  refine ⟨first, failing, last, hholders, ?_, hfirst.1, hfailing.1, hlast.1, ?_, ?_⟩
  · simp [hfirst, hfailing, hlast]
  · exact Workspace.exists_mem_alone hfirst.2.2 none
  · exact Workspace.exists_mem_alone hlast.2.2 none

end Sample

namespace Workspace

open Sample

/-- The file of the first one is there, though the pass fails behind it. -/
theorem process_siblings_first : ∃ first rest file, siblingGraph.holders = first :: rest ∧
    file ∈ (alone none siblingGraph options first).sink.files ∧
    file ∈ (({} : Workspace).process siblingGraph options).1.sink.files := by
  obtain ⟨first, failing, last, hholders, hready, -, -, -, ⟨file, hfile⟩, -⟩ := holders_siblingGraph
  refine ⟨first, _, file, hholders, hfile, ?_⟩
  have hsplit : siblingGraph.holders = [] ++ first :: [failing, last] := hholders
  obtain ⟨hiff, -⟩ := mem_files_process_iff (w := {}) read_siblings rfl hsplit
    (hready first List.mem_cons_self) hfile (by simp)
  refine hiff.2 ?_
  rintro other ⟨done, left, w', deferred, failure, hsplit, -, -⟩
  simp at hsplit

/-- The file of the last one is lost, though its name is its own and it commits the file on its
own: no function is found in the converter of another holder. -/
theorem process_siblings_last : ∃ before last file, siblingGraph.holders = before ++ [last] ∧
    siblingGraph.isReady last = true ∧
    file ∈ (alone none siblingGraph options last).sink.files ∧
    (∀ other ∈ before, other.name ≠ last.name) ∧
    (∃ failure, (({} : Workspace).process siblingGraph options).2 = .error failure ∧
      failure.family = .badLookup) ∧
    file ∉ (({} : Workspace).process siblingGraph options).1.sink.files := by
  obtain ⟨first, failing, last, hholders, hready, hfirst, hfailing, hlast, -, file, hfile⟩ :=
    holders_siblingGraph
  have hlastReady := hready last (by simp)
  -- the pass ends at the second holder, and no file of it has the name of the last one
  have hpass : (match ({} : Workspace).process siblingGraph options with
      | (w, .error failure) =>
        w.sink.files.all (fun file => file.name == ("First" : Text)) && failure.family == .badLookup
      | (_, .ok _) => false) = true := by decide +kernel
  have hname := name_of_mem_alone (Document.read_sound read_siblings)
    (SymbolGraph.isReady_iff.1 hlastReady) hfile
  refine ⟨[first, failing], last, file, hholders, hlastReady, hfile, ?_, ?_⟩
  · simp [hfirst, hfailing, hlast]
  · split at hpass
    · rename_i w failure hprocess
      rw [hprocess]
      simp only [Bool.and_eq_true, List.all_eq_true, beq_iff_eq] at hpass
      refine ⟨⟨failure, rfl, hpass.2⟩, fun hmem => ?_⟩
      have hlost := hpass.1 file hmem
      rw [hname, hlast] at hlost
      exact absurd hlost (by decide)
    · cases hpass

end Workspace

end KotlinPreferences
