import KotlinPreferences.Proofs.Output.History
import KotlinPreferences.Proofs.Output.Places
import KotlinPreferences.Proofs.Output.Writing
import Mathlib.Data.List.Nodup

/-!
# Files that overwrite each other

A sink tells files apart by their packages and names, and its disk by the places where their paths
lead. Where two files of different names lead to one place, the later one stays there.

* `Sink.disk_run_eq`: the disk of a sink after a history;
* `Sink.nodup_committed`: no two files are committed under one name;
* `Sink.Action.Tidy`: creations whose names do not lead into other folders;
* `Sink.content_of_run`: what stands on the disk after a history, and when nothing is lost;
* `Sink.run_overwriting`: histories in which a file is lost.
-/

namespace KotlinPreferences.Sink

open KotlinPreferences.Sink.Action

variable {s : Sink} {d : Disk} {past : List Action} {a : Action} {handle : Nat} {file : GeneratedFile}

/-! ### The disk of a sink -/

/-- Closing a file writes it to the disk, if that commits it. -/
theorem Remembers.disk_close (h : Remembers past s) (hscoped : Scoped past)
    (hcloses : a.closes? = some handle) (hlt : handle < (handedOut past).length)
    (hdisk : s.disk = some (d.writeAll (committed past))) :
    (s.close handle).1.disk = some (d.writeAll (committed (past ++ [a]))) := by
  by_cases hmem : handle ∈ closed past
  · have hclosed : closed (past ++ [a]) = closed past :=
      (closed_concat_of_some hcloses).trans (if_pos hmem)
    rw [h.close_of_closed hmem hlt, hscoped.committed_concat hclosed]
    exact hdisk
  · rw [h.close_of_open hmem (List.getElem?_eq_getElem hlt),
      hscoped.committed_concat_of_closes hcloses hmem, Disk.writeAll_append]
    simp only [closing]
    cases file? past handle with
    | none => exact hdisk
    | some file =>
      rw [Option.elim_some, hdisk]
      rfl

/-- **The disk of a sink holds what its history wrote to it**: the files committed, in order. -/
theorem disk_run_eq (d : Disk) (h : Scoped past) :
    (run { disk := some d } past).disk = some (d.writeAll (committed past)) := by
  induction h with
  | nil => rfl
  | @concat past a hscoped hknown ih =>
    have hs := remembers_run (some d) hscoped
    rw [run_concat]
    cases hcloses : a.closes? with
    | none =>
      rw [disk_perform_of_none _ hcloses, ih,
        hscoped.committed_concat (closed_concat_of_none hcloses)]
    | some handle =>
      have huses := (of_closes? hcloses).2.1
      rw [perform_fst_of_closes? _ hcloses]
      exact hs.disk_close hscoped hcloses (hknown handle huses) ih

/-! ### Names of files -/

theorem header_of_file? (h : file? past handle = some file) :
    (handedOut past)[handle]? = some file.toFileHeader := by
  obtain ⟨header, hheader, hfile⟩ := Option.bind_eq_some_iff.1 h
  obtain ⟨content, -, rfl⟩ := Option.map_eq_some_iff.1 hfile
  exact hheader

/-- No two files are committed under one name. -/
theorem nodup_committed (past : List Action) :
    ((committed past).map fun file => fileName file.toFileHeader).Nodup := by
  have hnames : ((handedOut past).map fileName).Nodup := by
    rw [handedOut, map_distinctOn]
    exact nodup_distinct _
  have hname : ∀ handle name, name ∈ (file? past handle).map (fun file =>
      fileName file.toFileHeader) → ((handedOut past).map fileName)[handle]? = some name := by
    intro handle name h
    obtain ⟨file, hfile, rfl⟩ := Option.map_eq_some_iff.1 h
    rw [List.getElem?_map, header_of_file? hfile, Option.map_some]
  rw [committed, List.map_filterMap]
  refine List.Nodup.filterMap (fun handle other name h h' => ?_) (nodup_distinct _)
  have hsome := hname handle name h
  obtain ⟨hlt, -⟩ := List.getElem?_eq_some_iff.1 hsome
  exact (List.getElem?_inj hlt hnames).1 (hsome.trans (hname other name h').symm)

/-- A file that is committed was created with its package and its name. -/
theorem exists_create_of_mem_committed (h : file ∈ committed past) :
    ∃ extension, Action.create file.dependencies file.package file.name extension ∈ past ∧
      file.path = Path.relativePath file.package file.name extension := by
  obtain ⟨handle, -, hfile⟩ := List.mem_filterMap.1 h
  have hmem : file.toFileHeader ∈ past.filterMap header? :=
    mem_of_mem_distinctOn (List.mem_of_getElem? (header_of_file? hfile))
  obtain ⟨a, ha, hheader⟩ := List.mem_filterMap.1 hmem
  cases a with
  | create dependencies package name extension =>
    rw [header?, Option.some.injEq] at hheader
    refine ⟨extension, ?_, ?_⟩
    · rw [← hheader]
      exact ha
    · rw [← hheader]
  | write | close | enter | leave => cases hheader

/-- A creation whose package and name have no surrogates and do not lead into other folders. -/
def Action.Tidy : Action → Prop
  | create _ package name extension => Path.Tidy package name extension
  | _ => True

/-- After tidy creations, files meet only if their packages have the same parts and their names
agree. -/
theorem agree_of_tidy (htidy : ∀ a ∈ past, a.Tidy) {other : GeneratedFile} {root : Path.Location}
    (h : file ∈ committed past) (h' : other ∈ committed past)
    (hplace : Path.resolve root file.path = Path.resolve root other.path) :
    Path.packageParts file.package = Path.packageParts other.package ∧ file.name = other.name := by
  obtain ⟨extension, hcreate, hpath⟩ := exists_create_of_mem_committed h
  obtain ⟨extension', hcreate', hpath'⟩ := exists_create_of_mem_committed h'
  rw [hpath, hpath', Path.resolve_eq_iff_of_tidy (htidy _ hcreate) (htidy _ hcreate')] at hplace
  exact ⟨hplace.1, hplace.2.1⟩

/-! ### What is lost -/

/-- **What stands on the disk after a history**, if the disk refuses no file. At each place stands
the file that was committed last with a path that leads there. So a file is lost only where a later
one meets it. Tidy files meet only if their packages have the same parts and their names agree; and
if their packages are written without empty parts, none is lost. -/
theorem content_of_run (d : Disk) (h : Scoped past) (htakes : d.Takes (committed past)) :
    let s := run { disk := some d } past
    let place := fun file : GeneratedFile => Path.resolve d.root file.path
    ∃ left, s.disk = some left ∧
      (∀ at', left.contentAt? at' = ((s.files.reverse.find? fun file => place file = at').map
        GeneratedFile.content).or (d.contentAt? at')) ∧
      (∀ before file after, s.files = before ++ file :: after →
        (∀ later ∈ after, place later ≠ place file) →
        left.contentAt? (place file) = some file.content) ∧
      ((∀ a ∈ past, a.Tidy) →
        (∀ file ∈ s.files, ∀ other ∈ s.files, place file = place other →
          Path.packageParts file.package = Path.packageParts other.package ∧
            file.name = other.name) ∧
        ((∀ file ∈ s.files, Path.Tight file.package) →
          ∀ file ∈ s.files, left.contentAt? (place file) = some file.content)) := by
  intro s place
  have hfiles : s.files = committed past := (remembers_run (some d) h).files
  have hlast : ∀ at', (d.writeAll (committed past)).contentAt? at' =
      ((s.files.reverse.find? fun file => place file = at').map GeneratedFile.content).or
        (d.contentAt? at') := by
    rw [hfiles]
    exact Disk.contentAt?_writeAll htakes
  have hkept : ∀ before file after, s.files = before ++ file :: after →
      (∀ later ∈ after, place later ≠ place file) →
      (d.writeAll (committed past)).contentAt? (place file) = some file.content := by
    intro before file after hsplit hlater
    have hnone : after.reverse.find? (fun later => place later = place file) = none := by
      simpa using hlater
    rw [hlast, hsplit, List.reverse_append, List.reverse_cons, List.append_assoc,
      List.find?_append, hnone]
    simp
  refine ⟨_, disk_run_eq d h, hlast, hkept, fun htidy => ⟨?_, fun htight file hfile => ?_⟩⟩
  · intro file hfile other hother
    rw [hfiles] at hfile hother
    exact agree_of_tidy htidy hfile hother
  · obtain ⟨before, after, hsplit⟩ := List.append_of_mem hfile
    refine hkept before file after hsplit fun later hlater hplace => ?_
    have hmem : later ∈ s.files := hsplit ▸ List.mem_append_right _ (List.mem_cons_of_mem _ hlater)
    obtain ⟨hparts, hname⟩ := agree_of_tidy htidy (hfiles ▸ hmem) (hfiles ▸ hfile) hplace
    have hpackage := Path.eq_of_packageParts (htight later hmem) (htight file hfile) hparts
    -- a later file of the same name contradicts that names are committed once
    have hnodup := nodup_committed past
    rw [← hfiles, hsplit, List.map_append, List.map_cons] at hnodup
    have hnot := (List.nodup_cons.1 (List.nodup_append.1 hnodup).2.1).1
    exact hnot (List.mem_map.2 ⟨later, hlater, Prod.ext hpackage hname⟩)

/-! ### Two files -/

section TwoFiles

variable {package name extension package' name' extension' : Text}

/-- The first of two files, as it is committed. -/
def firstFile (package name extension : Text) : GeneratedFile :=
  ⟨⟨package, name, Path.relativePath package name extension, ⟨false, []⟩⟩, "first"⟩

/-- The second of two files, as it is committed. -/
def secondFile (package name extension : Text) : GeneratedFile :=
  ⟨⟨package, name, Path.relativePath package name extension, ⟨false, []⟩⟩, "second"⟩

/-- Two files are created, written and closed, one after the other. -/
def twoFiles (package name extension package' name' extension' : Text) : List Action :=
  [.create ⟨false, []⟩ package name extension, .write 0 "first".toUTF8, .close 0,
    .create ⟨false, []⟩ package' name' extension', .write 1 "second".toUTF8, .close 1]

/-- Once two files of different names were created, both are handed out. -/
theorem handedOut_twoFiles (hne : (package', name') ≠ (package, name))
    (hcreated : past.filterMap header? = [(firstFile package name extension).toFileHeader,
      (secondFile package' name' extension').toFileHeader]) :
    handedOut past = [(firstFile package name extension).toFileHeader,
      (secondFile package' name' extension').toFileHeader] := by
  have hname : fileName (secondFile package' name' extension').toFileHeader ≠
      fileName (firstFile package name extension).toFileHeader := hne
  rw [handedOut, hcreated, distinctOn, distinctOn, distinctOn, List.filter_nil,
    List.filter_cons_of_pos (by simpa using hname), List.filter_nil]

theorem scoped_twoFiles (hne : (package', name') ≠ (package, name)) :
    Scoped (twoFiles package name extension package' name' extension') := by
  have hsecond : ∀ past, past.filterMap header? =
      [(firstFile package name extension).toFileHeader,
        (secondFile package' name' extension').toFileHeader] → 1 < (handedOut past).length := by
    intro past hcreated
    rw [handedOut_twoFiles hne hcreated]
    exact Nat.one_lt_two
  refine (((((Scoped.nil.concat ?_).concat ?_).concat ?_).concat ?_).concat ?_).concat ?_
  all_goals rintro other ⟨⟩
  · exact Nat.zero_lt_one
  · exact Nat.zero_lt_one
  · exact hsecond _ rfl
  · exact hsecond _ rfl

theorem committed_twoFiles (hne : (package', name') ≠ (package, name)) :
    committed (twoFiles package name extension package' name' extension') =
      [firstFile package name extension, secondFile package' name' extension'] := by
  have hhanded : handedOut (twoFiles package name extension package' name' extension') =
      [(firstFile package name extension).toFileHeader,
        (secondFile package' name' extension').toFileHeader] := handedOut_twoFiles hne rfl
  have hclosed : closed (twoFiles package name extension package' name' extension') = [0, 1] := rfl
  have hfirst : Text.decode?
      (written 0 (twoFiles package name extension package' name' extension')) =
        some ("first" : Text) := Text.decode?_of_encode? rfl
  have hsecond : Text.decode?
      (written 1 (twoFiles package name extension package' name' extension')) =
        some ("second" : Text) := Text.decode?_of_encode? rfl
  rw [committed, hclosed]
  simp [file?, hhanded, hfirst, hsecond, firstFile, secondFile]

/-- Of the two files that a history commits under different names, the first is lost from the disk:
the second stands at its place. -/
def LosesFirst (past : List Action) : Prop :=
  Scoped past ∧ Sample.disk.Takes (committed past) ∧ ∃ first second left,
    (run { disk := some Sample.disk } past).files = [first, second] ∧
    (run { disk := some Sample.disk } past).disk = some left ∧
    (second.package, second.name) ≠ (first.package, first.name) ∧
    left.contentAt? (Path.resolve left.root first.path) = some second.content ∧
    second.content ≠ first.content

theorem losesFirst_twoFiles (hne : (package', name') ≠ (package, name))
    (htakes : Sample.disk.Takes
      [firstFile package name extension, secondFile package' name' extension'])
    (hplace : Path.resolve Sample.disk.root (Path.relativePath package' name' extension') =
      Path.resolve Sample.disk.root (Path.relativePath package name extension)) :
    LosesFirst (twoFiles package name extension package' name' extension') := by
  have hscoped : Scoped (twoFiles package name extension package' name' extension') :=
    scoped_twoFiles hne
  have hcommitted : committed (twoFiles package name extension package' name' extension') =
      [firstFile package name extension, secondFile package' name' extension'] :=
    committed_twoFiles hne
  refine ⟨hscoped, hcommitted ▸ htakes, _, _, _,
    (remembers_run (some Sample.disk) hscoped).files.trans hcommitted, disk_run_eq Sample.disk hscoped, hne, ?_,
    by simp [firstFile, secondFile]⟩
  -- the search for the last file at the place of the first one ends at the second
  have hlast : [firstFile package name extension,
      secondFile package' name' extension'].reverse.find? (fun file =>
        Path.resolve Sample.disk.root file.path =
          Path.resolve Sample.disk.root (firstFile package name extension).path) =
      some (secondFile package' name' extension') :=
    List.find?_cons_of_pos (decide_eq_true hplace)
  rw [hcommitted, Disk.root_writeAll, Disk.contentAt?_writeAll htakes, hlast]
  rfl

end TwoFiles

/-- Packages that differ in an empty part, a name that holds a slash, and an extension that holds a
point lead different files to one place. -/
theorem run_overwriting :
    LosesFirst (twoFiles "a.b" "X" "kt" "a..b" "X" "kt") ∧
      LosesFirst (twoFiles "a.b" "X" "kt" "a" "b/X" "kt") ∧
      LosesFirst (twoFiles "a" "X.y" "kt" "a" "X" "y.kt") :=
  ⟨losesFirst_twoFiles (by decide) (by decide +kernel) (by decide +kernel),
    losesFirst_twoFiles (by decide) (by decide +kernel) (by decide +kernel),
    losesFirst_twoFiles (by decide) (by decide +kernel) (by decide +kernel)⟩

/-- Two tidy files in packages without empty parts are both there afterwards. -/
theorem content_of_tidy_run : ∃ left,
    (run { disk := some Sample.disk } (twoFiles "a.b" "X" "kt" "a.c" "X" "kt")).disk = some left ∧
      left.contentAt? (Path.resolve Sample.disk.root "kotlin/a/b/X.kt") = some ("first" : Text) ∧
      left.contentAt? (Path.resolve Sample.disk.root "kotlin/a/c/X.kt") = some ("second" : Text) := by
  have hcommitted : committed (twoFiles "a.b" "X" "kt" "a.c" "X" "kt") =
      [firstFile "a.b" "X" "kt", secondFile "a.c" "X" "kt"] := committed_twoFiles (by decide)
  have hscoped : Scoped (twoFiles "a.b" "X" "kt" "a.c" "X" "kt") := scoped_twoFiles (by decide)
  have htakes : Sample.disk.Takes (committed (twoFiles "a.b" "X" "kt" "a.c" "X" "kt")) := by
    rw [hcommitted]
    decide +kernel
  have htidy : ∀ a ∈ twoFiles "a.b" "X" "kt" "a.c" "X" "kt", a.Tidy := by
    simp only [twoFiles, List.forall_mem_cons, Action.Tidy]
    have hplain {package : Text} (hslash : .scalar '/' ∉ package.toList)
        (hunicode : package.isUnicode = true) : Path.Tidy package "X" "kt" :=
      ⟨hslash, by decide, hunicode, rfl, rfl, Path.plainExtension_kt⟩
    exact ⟨hplain (by decide) rfl, trivial, trivial, hplain (by decide) rfl, trivial, trivial,
      by simp⟩
  obtain ⟨left, hleft, -, -, hkept⟩ := content_of_run Sample.disk hscoped htakes
  obtain ⟨-, hkept⟩ := hkept htidy
  rw [(remembers_run (some Sample.disk) hscoped).files, hcommitted] at hkept
  simp only [List.forall_mem_cons] at hkept
  obtain ⟨hfirst, hsecond, -⟩ := hkept ⟨by decide +kernel, by decide +kernel, by simp⟩
  exact ⟨left, hleft, hfirst, hsecond⟩

end KotlinPreferences.Sink
