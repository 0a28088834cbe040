import KotlinPreferences.Proofs.Output.Places
import KotlinPreferences.Proofs.Output.Writing
import KotlinPreferences.Proofs.Pass.Siblings

/-!
# Where the files of a pass lie

The files of a pass start from the folder of the package, which no package name leads out of. From
there the name of the holder is followed as it is given, and it may lead anywhere.

* `Path.stays`: walks that never climb out of a folder; `Path.climb`: names that climb at first;
* `Path.resolve_climb`, `Path.inside_climb_iff`: where such names lead, and when they stay inside;
* `Workspace.Writes`: each file on a disk was there before, or lies at the place of a committed one;
* `Workspace.files_confined`: where the files of a pass lie, and which of them lie inside;
* `Workspace.process_climbing`: a pass that writes outside the root.
-/

namespace KotlinPreferences

/-! ### Walks -/

namespace Path

variable {base extra : Location} {segments : List Text} {root : Location}
  {package name extension : Text}

/-- Whether a walk never climbs further up than it is deep, given how deep it starts. -/
def stays : Nat → List Text → Bool
  | _, [] => true
  | 0, segment :: rest => segment != ".." && stays 1 rest
  | depth + 1, segment :: rest =>
    if segment = ".." then stays depth rest else stays (depth + 2) rest

/-- A walk that does not climb out of a folder ends inside it. -/
theorem inside_of_stays (h : stays extra.length segments = true) :
    base <+: segments.foldl step (base ++ extra) := by
  induction segments generalizing extra with
  | nil => exact List.prefix_append base extra
  | cons segment rest ih =>
    rw [List.foldl_cons]
    rcases List.eq_nil_or_concat' extra with rfl | ⟨front, last, rfl⟩
    · -- in the folder itself the walk does not climb
      rw [List.length_nil, stays, Bool.and_eq_true, bne_iff_ne] at h
      rw [step_of_ne h.1, List.append_assoc]
      exact ih h.2
    · rw [List.length_append, List.length_singleton, stays] at h
      split at h
      · rename_i hup
        rw [hup, step_up, ← List.append_assoc, List.dropLast_concat]
        exact ih h
      · rename_i hup
        rw [step_of_ne hup, List.append_assoc]
        exact ih (by simpa using h)

/-- Climbing takes off the last folders of a place. -/
theorem foldl_step_up (n : Nat) (place : Location) :
    (List.replicate n (".." : Text)).foldl step place = place.take (place.length - n) := by
  induction n generalizing place with
  | zero => simp
  | succ n ih =>
    have hlength : place.dropLast.length - n = place.length - (n + 1) := by
      rw [List.length_dropLast]
      omega
    rw [List.replicate_succ, List.foldl_cons, step_up, ih, hlength, List.dropLast_eq_take,
      List.take_take]
    congr 1
    omega

/-- A name that climbs some folders up at first. -/
def climb : Nat → Text → Text
  | 0, path => path
  | n + 1, path => ".." ++ "/" ++ climb n path

theorem segments_climb (n : Nat) (path : Text) :
    Path.segments (climb n path) = List.replicate n (".." : Text) ++ Path.segments path := by
  have hup : Path.segments ".." = [(".." : Text)] := by decide
  induction n with
  | zero => rfl
  | succ n ih =>
    rw [climb, segments_append, hup, ih, List.replicate_succ]
    rfl

theorem climb_append (n : Nat) (path more : Text) :
    climb n path ++ more = climb n (path ++ more) := by
  induction n with
  | zero => rfl
  | succ n ih => rw [climb, climb, Text.append_assoc, ih]

/-- The path of a file whose name climbs at first leads to a place in the folder that it climbs
to. -/
theorem resolve_climb (hslash : .scalar '/' ∉ name.toList) (hextension : PlainExtension extension)
    (root : Location) (package : Text) (n : Nat) :
    let folder := root ++ ("kotlin" : Text) :: packageSegments package
    resolve root (relativePath package (climb n name) extension) =
      folder.take (folder.length - n) ++ [(name ++ "." ++ extension).onDisk] := by
  intro folder
  rw [resolve_relativePath, climb_append, climb_append, segments_climb, List.foldl_append,
    foldl_step_up, foldl_step_fileName hextension hslash]

/-- Such a file lies inside the folder of all packages exactly where its name climbs no further up
than its package is deep. -/
theorem inside_climb_iff (hslash : .scalar '/' ∉ name.toList) (hextension : PlainExtension extension)
    (root : Location) (package : Text) (n : Nat) :
    root ++ [("kotlin" : Text)] <+: resolve root (relativePath package (climb n name) extension) ↔
      n ≤ (packageSegments package).length := by
  have hfolder : (root ++ ("kotlin" : Text) :: packageSegments package).length =
      root.length + 1 + (packageSegments package).length := by
    rw [List.length_append, List.length_cons]
    omega
  rw [resolve_climb hslash hextension, hfolder]
  constructor
  · intro hinside
    by_contra hdeep
    -- at most the root is left, so the file would have to stand at the place of the folder
    have hlength : ((root ++ ("kotlin" : Text) :: packageSegments package).take
        (root.length + 1 + (packageSegments package).length - n) ++
          [(name ++ "." ++ extension).onDisk]).length ≤ (root ++ [("kotlin" : Text)]).length := by
      simp only [List.length_append, List.length_take, List.length_singleton]
      omega
    have hsame := List.append_inj' (hinside.eq_of_length_le hlength) rfl
    have hbytes : ("kotlin" : Text).nameBytes? = some [0x6B, 0x6F, 0x74, 0x6C, 0x69, 0x6E] := by
      decide
    have hname : name ++ "." ++ extension = "kotlin" :=
      (Text.onDisk_eq_iff_of_ascii hbytes (by simp)).1 (List.singleton_inj.1 hsame.2).symm
    have hpoint : .scalar '.' ∈ Text.toList "kotlin" := by
      rw [← hname]
      simp
    exact absurd hpoint (by decide)
  · intro hdepth
    have hsplit : root ++ ("kotlin" : Text) :: packageSegments package =
        (root ++ [("kotlin" : Text)]) ++ packageSegments package := by simp
    have hkept : (root ++ [("kotlin" : Text)]).length ≤
        root.length + 1 + (packageSegments package).length - n := by
      rw [List.length_append, List.length_singleton]
      omega
    rw [hsplit, List.take_append, List.take_of_length_le hkept, List.append_assoc]
    exact List.prefix_append _ _

/-- The place of a file, and when it lies inside the folder of all packages. -/
theorem resolve_cases (hextension : PlainExtension extension) (root : Location)
    (package name : Text) :
    let folder := root ++ ("kotlin" : Text) :: packageSegments package
    let segments := Path.segments (name ++ "." ++ extension)
    let place := resolve root (relativePath package name extension)
    let inside := root ++ [("kotlin" : Text)] <+: place
    place = segments.foldl step folder ∧
      (stays (packageSegments package).length segments = true → inside) ∧
      (∀ n base, name = climb n base → .scalar '/' ∉ base.toList →
        (inside ↔ n ≤ (packageSegments package).length)) ∧
      (.scalar '/' ∉ name.toList → place = folder ++ [(name ++ "." ++ extension).onDisk]) := by
  intro folder segments place inside
  have hplace : place = segments.foldl step folder := resolve_relativePath _ _ _ _
  refine ⟨hplace, fun hstays => ?_, fun n base hname hslash => ?_, fun hslash => ?_⟩
  · have hinside : root ++ [("kotlin" : Text)] <+:
        segments.foldl step (root ++ [("kotlin" : Text)] ++ packageSegments package) :=
      inside_of_stays hstays
    rw [List.append_assoc] at hinside
    show root ++ [("kotlin" : Text)] <+: place
    rw [hplace]
    exact hinside
  · subst hname
    exact inside_climb_iff hslash hextension root package n
  · exact hplace.trans (foldl_step_fileName hextension hslash folder)

end Path

/-! ### The files of a pass -/

namespace Workspace

open Holder

variable {g : SymbolGraph} {options : Options} {holder : TypeDecl} {holders : List TypeDecl}
  {w : Workspace} {d : Disk}

/-- Each file on the disk of a workspace stood on some disk before, or it lies at the place of a
file that is committed. -/
def Writes (d : Disk) (w : Workspace) : Prop :=
  ∃ left, w.sink.disk = some left ∧ left.root = d.root ∧ ∀ entry ∈ left.files,
    entry ∈ d.files ∨ ∃ file ∈ w.sink.files, entry.1 = Path.resolve d.root file.path

theorem Writes.holding {w' : Workspace} {file : GeneratedFile} (h : Writes d w)
    (hsink : w'.sink = w.sink.holding file) : Writes d w' := by
  obtain ⟨left, hdisk, hroot, hfiles⟩ := h
  refine ⟨(left.write file.path file.orEmpty.content).1, ?_, (Disk.root_write _ _ _).trans hroot, ?_⟩
  · rw [hsink, Sink.holding, hdisk]
    rfl
  · intro entry hentry
    rw [hsink]
    rcases Disk.mem_files_write hentry with hold | hplace
    · rcases hfiles entry hold with hbefore | ⟨other, hother, hplace⟩
      · exact .inl hbefore
      · exact .inr ⟨other, List.mem_append_left _ hother, hplace⟩
    · refine .inr ⟨file.orEmpty, List.mem_append_right _ (List.mem_singleton_self _), ?_⟩
      rw [hplace, hroot, GeneratedFile.toFileHeader_orEmpty]

/-- A run over some holders writes only at the places of files that it commits. -/
theorem writes_processAll (hsound : g.Sound) (h : Writes d w) :
    Writes d (processAll g options holders w).1 := by
  refine processAll_invariant (P := Writes d) ?_ h
  intro holder _ hconsistent w hw
  rcases sink_generate hsound hconsistent w with hsame | ⟨-, file, -, hholding⟩
  · unfold Writes
    rw [hsame]
    exact hw
  · exact hw.holding hholding

/-- **Where the files of a pass lie.** A pass with a disk writes nowhere but at the places of the
files that it commits. Each of these is the file of a ready interface: its place is reached from the
folder of the package along the name. It lies inside the folder of all packages if the walk along
the name does not climb out of it. Where the name climbs at first and holds no slash otherwise, it
lies inside exactly if it climbs no further up than the package is deep; and a name without slashes
lies in the folder of the package. -/
theorem files_confined {v : Value} (hread : Document.read v = .ok g)
    (hsink : w.sink = { disk := some d }) :
    let s := (w.process g options).1.sink
    (∃ left, s.disk = some left ∧ left.root = d.root ∧ ∀ entry ∈ left.files, entry ∈ d.files ∨
      ∃ file ∈ s.files, entry.1 = Path.resolve d.root file.path) ∧
    ∀ file ∈ s.files, ∃ holder ∈ g.readyInterfaces g.holders, ∃ package,
      options.package = .str package ∧ file.package = package ∧ file.name = holder.name ∧
      let folder := d.root ++ ("kotlin" : Text) :: Path.packageSegments package
      let name := Path.segments (holder.name ++ "." ++ Vocabulary.fileExtension)
      let place := Path.resolve d.root file.path
      let inside := d.root ++ [("kotlin" : Text)] <+: place
      place = name.foldl Path.step folder ∧
      (Path.stays (Path.packageSegments package).length name = true → inside) ∧
      (∀ n base, holder.name = Path.climb n base → .scalar '/' ∉ base.toList →
        (inside ↔ n ≤ (Path.packageSegments package).length)) ∧
      (.scalar '/' ∉ holder.name.toList →
        place = folder ++ [(holder.name ++ "." ++ Vocabulary.fileExtension).onDisk]) := by
  intro s
  have hsound := Document.read_sound hread
  constructor
  · exact writes_processAll hsound ⟨d, by rw [hsink], rfl, fun entry hentry => .inl hentry⟩
  · intro file hfile
    rcases exists_draft_of_mem_processAll hsound hfile with
      hold | ⟨holder, hholder, ds, draft, hdraft, rfl⟩
    · rw [hsink] at hold
      cases hold
    · obtain ⟨-, hready, -⟩ := SymbolGraph.mem_readyInterfaces.1 hholder
      obtain ⟨-, hpackage, hname, -⟩ :=
        classFile_of_draft hsound (SymbolGraph.isReady_iff.1 hready) hdraft
      rw [GeneratedFile.toFileHeader_orEmpty]
      refine ⟨holder, hholder, draft.package, hpackage, rfl, hname, ?_⟩
      rw [← hname]
      exact Path.resolve_cases Path.plainExtension_kt d.root draft.package draft.name

end Workspace

/-! ### Names of interfaces -/

namespace Sample

/-- An interface of some name, marked as a holder. -/
def namedDocument (name : Text) : Value :=
  .obj [("nodes", .arr [node "named" "TypeDecl"
    [("name", .str name), ("kind", .str "interface"), ("annotations", holderMark)]])]

/-- The graph of an interface whose name is a plain one. -/
def plainGraph : SymbolGraph := graphOf (namedDocument "Up")

/-- The graph of an interface whose name climbs up, out of the root. -/
def climbingGraph : SymbolGraph := graphOf (namedDocument "../../../../../../Up")

end Sample

namespace Workspace

open Sample

/-- Under a plain name the file lies inside the folder of all packages. -/
theorem confined_plain :
    ∃ file ∈ (({ sink := { disk := some disk } } : Workspace).process plainGraph options).1.sink.files,
      disk.root ++ [("kotlin" : Text)] <+: Path.resolve disk.root file.path := by
  have hdraft : (onlyDraft? plainGraph options).map
      (fun draft => (draft.name, draft.content.isUnicode)) = some (("Up" : Text), true) := by
    decide +kernel
  obtain ⟨draft, hdraft, hdrafted⟩ := Option.map_eq_some_iff.1 hdraft
  rw [Prod.mk.injEq] at hdrafted
  obtain ⟨hname, hunicode⟩ := hdrafted
  have hmem : draft.file ∈
      (({ sink := { disk := some disk } } : Workspace).process plainGraph options).1.sink.files := by
    rw [files_process_of_onlyDraft? hdraft hunicode]
    exact List.mem_singleton_self _
  have hread : Document.read (namedDocument "Up") = .ok plainGraph := read_graphOf (by decide +kernel)
  obtain ⟨-, hfiles⟩ := files_confined (w := { sink := { disk := some disk } }) hread rfl
  obtain ⟨holder, -, package, -, -, hholder, -, -, hinside, -⟩ := hfiles draft.file hmem
  have hUp : holder.name = Path.climb 0 "Up" := hholder.symm.trans hname
  exact ⟨draft.file, hmem, (hinside 0 "Up" hUp (by decide)).2 (Nat.zero_le _)⟩

/-- A name that climbs leads out of the root, and the file is written there: not below the root, let
alone inside the folder of all packages. -/
theorem process_climbing : Document.read (namedDocument "../../../../../../Up") = .ok climbingGraph ∧
    let s := (({ sink := { disk := some disk } } : Workspace).process climbingGraph options).1.sink
    ∃ file left, s.files = [file] ∧ s.disk = some left ∧
      left.contentAt? (Path.resolve left.root file.path) = some file.content ∧
      ¬ left.root <+: Path.resolve left.root file.path ∧
      ¬ left.root ++ [("kotlin" : Text)] <+: Path.resolve left.root file.path := by
  refine ⟨read_graphOf (by decide +kernel), ?_⟩
  have hdraft : (onlyDraft? climbingGraph options).map (fun draft => (draft.package, draft.name)) =
      some (Vocabulary.defaultPackage, ("../../../../../../Up" : Text)) := by decide +kernel
  obtain ⟨draft, hdraft, hnames⟩ := Option.map_eq_some_iff.1 hdraft
  rw [Prod.mk.injEq] at hnames
  have hpath : draft.file.orEmpty.path = Path.relativePath Vocabulary.defaultPackage
      "../../../../../../Up" Vocabulary.fileExtension := by
    rw [GeneratedFile.toFileHeader_orEmpty, ← hnames.1, ← hnames.2]
    rfl
  have htakes : (disk.write draft.file.orEmpty.path draft.file.orEmpty.content).2 = .ok () := by
    rw [Disk.refusal_eq _ _ _ "", hpath]
    decide +kernel
  have hplace : Path.resolve disk.root draft.file.orEmpty.path = (["tmp", "Up.kt"] : List Text) := by
    rw [hpath]
    decide +kernel
  rw [sink_process_of_onlyDraft? hdraft]
  have hwritten : (disk.write draft.file.path draft.file.orEmpty.content).1 =
      (disk.write draft.file.orEmpty.path draft.file.orEmpty.content).1 := by
    rw [GeneratedFile.toFileHeader_orEmpty]
  refine ⟨draft.file.orEmpty, _, rfl, congrArg some hwritten, ?_, ?_, ?_⟩
  · rw [Disk.root_write, Disk.contentAt?_write htakes, if_pos rfl]
  · rw [Disk.root_write, hplace]
    decide
  · rw [Disk.root_write, hplace]
    decide

end Workspace

end KotlinPreferences
