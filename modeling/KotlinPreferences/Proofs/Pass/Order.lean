import KotlinPreferences.Proofs.Document.Order
import KotlinPreferences.Proofs.Output.Order
import KotlinPreferences.Proofs.Pass.Concatenation

/-!
# The order of a pass

A pass over a document in another order leaves the same, in another order. The holders do not see
each other, apart from the names that are taken and the places that are written to; and whether
names and places are enough for all of them does not depend on who comes first.

* `Sink.Admits`: a sink takes some files, one after another;
* `Sink.admits_iff`, `Sink.admits_perm`: when it does, in whatever order they come;
* `Workspace.processAll_returns_iff`: when a run over some holders returns;
* `Workspace.returns_perm`: a run over them in another order;
* `Workspace.process_of_reordered`: a pass over a document in another order.
-/

namespace KotlinPreferences

namespace Sink

variable {s : Sink} {file : GeneratedFile} {files files' : List GeneratedFile}

/-- A sink takes some files, one after another: the name of each is free, and the disk does not refuse
it. -/
def Admits : Sink → List GeneratedFile → Prop
  | _, [] => True
  | s, file :: rest =>
    s.created.lookup (file.package, file.name) = none ∧ s.taking file = .ok () ∧
      Admits (s.holding file) rest

theorem lookup_holding_eq_none_iff {name : Text × Text} :
    (s.holding file).created.lookup name = none ↔
      s.created.lookup name = none ∧ name ≠ (file.package, file.name) := by
  rw [holding, List.lookup_append, Option.or_eq_none_iff, List.lookup_cons, List.lookup_nil]
  refine and_congr_right fun _ => ?_
  by_cases hname : name = (file.package, file.name)
  · simp [hname]
  · have hbeq : (name == (file.package, file.name)) = false := beq_false_of_ne hname
    simp [hname, hbeq]

/-- Some files find a place: their names are different and free, and the disk takes them. -/
structure Fits (s : Sink) (files : List GeneratedFile) : Prop where
  nodup : (files.map fun file => (file.package, file.name)).Nodup
  free : ∀ file ∈ files, s.created.lookup (file.package, file.name) = none
  taken : ∀ d, s.disk = some d → d.Takes (files.map GeneratedFile.orEmpty)

theorem fits_cons_iff : s.Fits (file :: files) ↔
    s.created.lookup (file.package, file.name) = none ∧ s.taking file = .ok () ∧
      (s.holding file).Fits files := by
  have htaking : s.taking file = .ok () ↔
      ∀ d, s.disk = some d → (d.write file.path file.orEmpty.content).2 = .ok () := by
    rw [← taking_orEmpty]
    cases hdisk : s.disk with
    | none => simp [taking, hdisk]
    | some d =>
      cases hwrite : (d.write file.path file.orEmpty.content).2 <;>
        simp [taking, hdisk, hwrite, Except.mapError]
  have hdisk : ∀ d, (s.holding file).disk = some d ↔ ∃ before, s.disk = some before ∧
      (before.write file.path file.orEmpty.content).1 = d := fun d => Option.map_eq_some_iff
  have htakes : ∀ d : Disk, d.Takes ((file :: files).map GeneratedFile.orEmpty) ↔
      (d.write file.path file.orEmpty.content).2 = .ok () ∧
        (d.write file.path file.orEmpty.content).1.Takes (files.map GeneratedFile.orEmpty) := by
    intro d
    rw [List.map_cons, Disk.Takes, GeneratedFile.toFileHeader_orEmpty]
  constructor
  · rintro ⟨hnodup, hfree, htaken⟩
    rw [List.map_cons, List.nodup_cons] at hnodup
    obtain ⟨hfile, hrest⟩ := List.forall_mem_cons.1 hfree
    refine ⟨hfile, htaking.2 fun d hd => ((htakes d).1 (htaken d hd)).1, hnodup.2, fun other hother => ?_, ?_⟩
    · refine lookup_holding_eq_none_iff.2 ⟨hrest other hother, fun hsame => hnodup.1 ?_⟩
      exact List.mem_map.2 ⟨other, hother, hsame⟩
    · intro d hd
      obtain ⟨before, hbefore, rfl⟩ := (hdisk d).1 hd
      exact ((htakes before).1 (htaken before hbefore)).2
  · rintro ⟨hfile, hfirst, hnodup, hfree, htaken⟩
    simp only [lookup_holding_eq_none_iff] at hfree
    refine ⟨?_, List.forall_mem_cons.2 ⟨hfile, fun other hother => (hfree other hother).1⟩, ?_⟩
    · rw [List.map_cons, List.nodup_cons]
      refine ⟨fun hmem => ?_, hnodup⟩
      obtain ⟨other, hother, hsame⟩ := List.mem_map.1 hmem
      exact (hfree other hother).2 hsame
    · intro d hd
      exact (htakes d).2 ⟨htaking.1 hfirst d hd, htaken _ ((hdisk _).2 ⟨d, hd, rfl⟩)⟩

/-- **A sink takes some files, one after another, exactly where they all find a place.** -/
theorem admits_iff : s.Admits files ↔ s.Fits files := by
  induction files generalizing s with
  | nil => exact iff_of_true trivial ⟨List.nodup_nil, by simp, fun _ _ => trivial⟩
  | cons file rest ih => rw [Admits, fits_cons_iff, ih]

theorem admits_append (files files' : List GeneratedFile) (s : Sink) :
    s.Admits (files ++ files') ↔ s.Admits files ∧ (files.foldl Sink.holding s).Admits files' := by
  induction files generalizing s with
  | nil => simp [Admits]
  | cons file rest ih => simp only [List.cons_append, Admits, ih, List.foldl_cons, and_assoc]

/-- So it takes them in any order. -/
theorem admits_perm (hdisk : ∀ d, s.disk = some d → d.Grounded) (hperm : files.Perm files')
    (h : s.Admits files) : s.Admits files' := by
  obtain ⟨hnodup, hfree, htaken⟩ := admits_iff.1 h
  refine admits_iff.2 ⟨(hperm.map _).nodup_iff.1 hnodup, fun file hfile => ?_, fun d hd => ?_⟩
  · exact hfree file (hperm.mem_iff.2 hfile)
  · exact (Disk.takes_perm (hdisk d hd) (hperm.map _)).1 (htaken d hd)

end Sink

namespace Workspace

open Holder

variable {g g' : SymbolGraph} {options : Options} {holder : TypeDecl}
  {holders holders' : List TypeDecl} {w w₁ w₂ : Workspace}

/-- What the ready ones among some holders leave on their own. -/
def filesOf (g : SymbolGraph) (options : Options) (holders : List TypeDecl) : List GeneratedFile :=
  (holders.filter g.isReady).flatMap fun holder => (alone none g options holder).sink.files

theorem filesOf_cons_of_not_ready (hready : g.isReady holder = false) :
    filesOf g options (holder :: holders) = filesOf g options holders := by
  rw [filesOf, List.filter_cons_of_neg (by simp [hready]), filesOf]

theorem filesOf_cons_of_ready (hready : g.isReady holder = true) :
    filesOf g options (holder :: holders) =
      (alone none g options holder).sink.files ++ filesOf g options holders := by
  rw [filesOf, List.filter_cons_of_pos hready, List.flatMap_cons, filesOf]

theorem filesOf_perm (hperm : holders.Perm holders') :
    (filesOf g options holders).Perm (filesOf g options holders') :=
  (hperm.filter _).flatMap_right _

/-- A run over some holders returns. -/
def Returns (g : SymbolGraph) (options : Options) (holders : List TypeDecl) (w : Workspace) : Prop :=
  ∃ w' deferred, processAll g options holders w = (w', .ok deferred)

/-- A holder that is not ready does not stop a run. -/
theorem returns_cons_of_not_ready (hconsistent : g.isConsistent holder.id = .ok false) :
    Returns g options (holder :: holders) w ↔ Returns g options holders w := by
  simp only [Returns, processAll, hconsistent]
  rcases processAll g options holders w with ⟨w', failure | deferred⟩
  · simp [Except.map]
  · simp [Except.map]

/-- A ready holder that has a draft with an encoding lets a run go on if the sink takes its file. -/
theorem returns_cons_of_ready (hconsistent : g.isConsistent holder.id = .ok true)
    {ds : List Diagnostic} {found : Option Draft}
    (hdraft : Holder.draft g options (.typeDecl holder) = ⟨ds, .ok found⟩)
    (hunicode : Encodable found) :
    Returns g options (holder :: holders) w ↔
      w.sink.Admits (found.map Draft.file).toList ∧
        Returns g options holders ⟨(found.map Draft.file).toList.foldl Sink.holding w.sink,
          w.diagnostics ++ ds⟩ := by
  simp only [Returns, processAll, hconsistent]
  have hgenerate : w.generate g options (.typeDecl holder) = w.absorb ⟨ds, .ok found⟩ := by
    rw [generate, hdraft]
  rw [hgenerate]
  cases found with
  | none => exact (and_iff_right trivial).symm
  | some draft =>
    cases hname : w.sink.created.lookup (draft.package, draft.name) with
    | some path =>
      have htaken : ¬ w.sink.Admits [draft.file] := by
        rintro ⟨hfree, -⟩
        rw [show w.sink.created.lookup (draft.file.package, draft.file.name) = _ from hname] at hfree
        cases hfree
      simp [absorb_of_created hname, htaken]
    | none =>
      rw [absorb_of_new hname]
      cases htaking : w.sink.taking draft.file with
      | error failure =>
        have hput : w.sink.putting draft.file = .error failure := by rw [Sink.putting, htaking]
        simp [Sink.Admits, htaking, hput]
      | ok u =>
        have hput : w.sink.putting draft.file = .ok () :=
          Sink.putting_eq_ok_iff.2 ⟨htaking, hunicode draft rfl⟩
        have hadmits : w.sink.Admits [draft.file] := ⟨hname, htaking, trivial⟩
        simp only [hput]
        exact (and_iff_right hadmits).symm

/-- Over holders that a pass can go through, a run returns if the sink takes their files. -/
theorem returns_iff_of_passable (hall : ∀ holder ∈ holders, Passable g options holder) :
    Returns g options holders w ↔ w.sink.Admits (filesOf g options holders) := by
  induction holders generalizing w with
  | nil => exact iff_of_true ⟨w, [], rfl⟩ trivial
  | cons holder rest ih =>
    obtain ⟨hholder, hrest⟩ := List.forall_mem_cons.1 hall
    have hconsistent := hholder.consistent
    cases hready : g.isReady holder with
    | false =>
      rw [returns_cons_of_not_ready (hready ▸ hconsistent), ih hrest, filesOf_cons_of_not_ready hready]
    | true =>
      obtain ⟨ds, found, hdraft, hunicode⟩ := hholder.exists_draft hready
      rw [returns_cons_of_ready (hready ▸ hconsistent) hdraft hunicode, ih hrest,
        filesOf_cons_of_ready hready, (alone_eq hdraft none).1, hunicode.orEmpty_eq,
        Sink.admits_append]

/-- **When a run over some holders returns:** it can be told of each whether it is ready; those that
are have drafts with an encoding; and the sink takes their files. -/
theorem processAll_returns_iff : Returns g options holders w ↔
    (∀ holder ∈ holders, Passable g options holder) ∧
      w.sink.Admits (filesOf g options holders) := by
  constructor
  · rintro ⟨w', deferred, h⟩
    have hall := (processAll_eq h none).1
    exact ⟨hall, (returns_iff_of_passable hall).1 ⟨w', deferred, h⟩⟩
  · rintro ⟨hall, hadmits⟩
    exact (returns_iff_of_passable hall).2 hadmits

/-- A run that returns does so over the same holders in another order. -/
theorem returns_perm (hdisk : ∀ d, w.sink.disk = some d → d.Grounded) (hperm : holders.Perm holders')
    (h : Returns g options holders w) : Returns g options holders' w := by
  obtain ⟨hall, hadmits⟩ := processAll_returns_iff.1 h
  exact processAll_returns_iff.2 ⟨fun holder hholder => hall holder (hperm.mem_iff.2 hholder),
    Sink.admits_perm hdisk (filesOf_perm hperm) hadmits⟩

/-- **A document in another order is the same document.** Let the nodes come in another order, and the
edges as well, as long as those out of one node keep theirs. The one document is accepted exactly
where the other is. If the names of the types in it are different texts, and a pass starts with an
empty sink, in memory or in an empty folder, then a pass over the one returns exactly where a pass
over the other does. The files of both are the same, and so are the deferred holders, and the
diagnostics of each holder, in their order; only the holders come in another order. -/
theorem process_of_reordered {v v' : Value} (h : Document.Reordered v v') :
    ((∃ g, Document.read v = .ok g) ↔ ∃ g', Document.read v' = .ok g') ∧
    ∀ g g', Document.read v = .ok g → Document.read v' = .ok g' → Document.DistinctlyNamed v →
      ∀ (options : Options) (folder : Option Path.Location),
      let w : Workspace := { sink := { disk := folder.map fun root => { root := root } } }
      ((∃ left deferred, w.process g options = (left, .ok deferred)) ↔
        ∃ left deferred, w.process g' options = (left, .ok deferred)) ∧
      ∀ left deferred left' deferred', w.process g options = (left, .ok deferred) →
        w.process g' options = (left', .ok deferred') →
        left.sink.files.Perm left'.sink.files ∧ deferred.Perm deferred' ∧
        left.diagnostics.Perm left'.diagnostics ∧
        let ready := g.holders.filter g.isReady
        let ready' := g'.holders.filter g'.isReady
        let own := fun holder => (alone none g options holder).diagnostics
        ready.Perm ready' ∧ left.diagnostics = ready.flatMap own ∧
          left'.diagnostics = ready'.flatMap own := by
  refine ⟨⟨fun ⟨_, hread⟩ => Document.read_of_reordered h hread,
    fun ⟨_, hread⟩ => Document.read_of_reordered h.symm hread⟩, ?_⟩
  intro g g' hread hread' hnames options folder w
  have halike := Document.alike_of_reordered h hnames hread hread'
  have hholders := halike.holders_perm
  have hsame : ∀ w, w.process g' options = processAll g options g'.holders w := fun w =>
    (halike.processAll_eq options g'.holders w).symm
  have hready : g'.isReady = g.isReady := funext fun holder => by
    rw [SymbolGraph.isReady, SymbolGraph.isReady, halike.isConsistent_eq]
  have hdisk : ∀ d, w.sink.disk = some d → d.Grounded := by
    intro d hd
    obtain ⟨root, -, rfl⟩ := Option.map_eq_some_iff.1 hd
    exact Disk.grounded_empty root
  constructor
  · simp only [hsame]
    exact ⟨returns_perm hdisk hholders, returns_perm hdisk hholders.symm⟩
  · intro left deferred left' deferred' hleft hleft'
    rw [hsame] at hleft'
    obtain ⟨-, rfl, -, hdiagnostics⟩ := processAll_eq hleft none
    obtain ⟨-, rfl, -, hdiagnostics'⟩ := processAll_eq hleft' none
    rw [List.nil_append] at hdiagnostics hdiagnostics'
    have hperm := hholders.filter g.isReady
    refine ⟨?_, hholders.filter _, ?_, hready ▸ hperm, hdiagnostics, hready ▸ hdiagnostics'⟩
    · rw [files_processAll hleft none, files_processAll hleft' none]
      exact filesOf_perm hholders
    · rw [hdiagnostics, hdiagnostics']
      exact hperm.flatMap_right _

end Workspace

/-! ### A document in another order -/

namespace Sample

/-- Two interfaces, a class and an interface whose converter is unknown, all marked as holders. -/
def holderNodes : List Value :=
  [node "a" "TypeDecl" [("name", .str "A"), ("kind", .str "interface"), ("annotations", holderMark)],
    node "b" "TypeDecl" [("name", .str "B"), ("annotations", holderMark)],
    node "c" "TypeDecl" [("name", .str "C"), ("kind", .str "interface"), ("annotations", holderMark)],
    node "zone" "Property" [("name", .str "zone"), ("type", .str "kotlin.String"),
      ("annotations", preferenceMark [("key", .str "zone"), ("default", .str ""),
        ("converter", .str "ZoneConverter")])],
    node "d" "TypeDecl" [("name", .str "D"), ("kind", .str "interface"), ("annotations", holderMark)]]

/-- A property of the last interface but one. -/
def zoneEdge : Value := edge "c" "zone" "HAS_PROPERTY"

/-- An edge from the class into a built-in type. -/
def textEdge : Value := edge "b" "type:kotlin.String" "INHERITS"

/-- The document of these holders. -/
def ordered : Value := .obj [("nodes", .arr holderNodes), ("edges", .arr [zoneEdge, textEdge])]

/-- The same holders and edges from the end. -/
def reordered : Value :=
  .obj [("nodes", .arr holderNodes.reverse), ("edges", .arr [textEdge, zoneEdge])]

/-- The graph of the document. -/
def orderedGraph : SymbolGraph := graphOf ordered

theorem read_ordered : Document.read ordered = .ok orderedGraph := read_graphOf (by decide +kernel)

/-- No node is the source of both edges. -/
theorem reordered_ordered : Document.Reordered ordered reordered := by
  have hedges : Document.EdgesReordered ([zoneEdge] ++ [textEdge]) ([textEdge] ++ [zoneEdge]) := by
    refine Document.edgesReordered_append_comm fun source => ?_
    by_cases hsource : "c" = source
    · subst hsource
      exact .inr rfl
    · have hnone : Document.startsAt source zoneEdge = false := beq_false_of_ne hsource
      exact .inl (by simp [hnone])
  exact ⟨_, _, _, _, rfl, rfl, (List.reverse_perm _).symm, hedges⟩

theorem distinctlyNamed_ordered : Document.DistinctlyNamed ordered where
  isText := List.all_eq_true.1 (by decide +kernel)
  nodup := by
    have hkeys : ((Document.typeNames ordered).map Value.key?).Nodup := by decide +kernel
    exact hkeys.of_map Value.key?

/-- Options that make for short files. -/
def shortOptions : Options where
  package := .str "p"
  storeType := .str "S"
  storeParam := .str "s"
  policy := .omitted
  escapeLiterals := .bool false

end Sample

namespace Workspace

open Sample

/-- A pass over the holders from the end leaves the same. -/
theorem process_reordered : ∃ g' left deferred left' deferred', Document.read reordered = .ok g' ∧
    ({} : Workspace).process orderedGraph shortOptions = (left, .ok deferred) ∧
    ({} : Workspace).process g' shortOptions = (left', .ok deferred') ∧
    left.sink.files.map (fun file => file.name) = ["A", "D"] ∧
    left.sink.files.Perm left'.sink.files ∧ deferred.Perm deferred' ∧
    left.diagnostics.Perm left'.diagnostics := by
  obtain ⟨haccepted, hall⟩ := process_of_reordered reordered_ordered
  obtain ⟨g', hread'⟩ := haccepted.1 ⟨_, read_ordered⟩
  obtain ⟨hreturns, hsame⟩ := hall _ _ read_ordered hread' distinctlyNamed_ordered shortOptions none
  simp only [Option.map_none] at hreturns hsame
  have hpass : ((({} : Workspace).process orderedGraph shortOptions).2.toOption.isSome &&
      (({} : Workspace).process orderedGraph shortOptions).1.sink.files.map (fun file => file.name) ==
        ["A", "D"]) = true := by decide +kernel
  rw [Bool.and_eq_true, beq_iff_eq] at hpass
  obtain ⟨hok, hnames⟩ := hpass
  rcases hprocess : ({} : Workspace).process orderedGraph shortOptions with ⟨left, failure | deferred⟩
  · rw [hprocess] at hok
    cases hok
  · rw [hprocess] at hnames
    obtain ⟨left', deferred', hprocess'⟩ := hreturns.1 ⟨left, deferred, hprocess⟩
    obtain ⟨hfiles, hdeferred, hdiagnostics, -⟩ :=
      hsame left deferred left' deferred' hprocess hprocess'
    exact ⟨g', left, deferred, left', deferred', hread', rfl, hprocess', hnames, hfiles, hdeferred,
      hdiagnostics⟩

end Workspace

end KotlinPreferences
