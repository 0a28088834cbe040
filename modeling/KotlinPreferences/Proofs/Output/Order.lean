import KotlinPreferences.Proofs.Output.Writing

/-!
# Files in any order

Whether a disk takes some files does not depend on the order in which they are written. Each file
has to be welcome as the disk is at first, and no file may come to stand where the path of another
one goes on.

* `Disk.Grounded`: above every folder is a folder;
* `Disk.onWay`, `Disk.Crossable`: the places on the way along some segments, and those that can be
  gone through;
* `Disk.enter_ok_iff`, `Disk.folders_of_enter`: when a folder is entered, and what is made for it;
* `Disk.Welcomes`, `Disk.welcomes_of_write`, `Disk.Welcomes.write_iff`: when a disk takes a file, and
  when it does after another one;
* `Disk.takes_iff`, `Disk.takes_perm`: when it takes some files, one after another.
-/

namespace KotlinPreferences.Disk

open KotlinPreferences.Path

variable {d : Disk} {place next : Location} {making : Bool} {segments : List Text}
  {path content : Text} {file : GeneratedFile} {files files' : List GeneratedFile}

/-! ### Folders -/

/-- Above every folder is a folder. -/
def Grounded (d : Disk) : Prop :=
  ∀ place, d.isFolder place = true → d.isFolder place.dropLast = true

theorem isFolder_withFolder : (d.withFolder next).isFolder place = true ↔
    d.isFolder place = true ∨ place = next := by
  simp [isFolder, withFolder, or_assoc]

theorem isFolder_root (d : Disk) : d.isFolder d.root = true := by simp [isFolder]

/-- A folder above which there is one keeps a disk grounded. -/
theorem Grounded.withFolder (h : d.Grounded) (hnext : d.isFolder next.dropLast = true) :
    (d.withFolder next).Grounded := by
  intro place hplace
  rcases isFolder_withFolder.1 hplace with hold | rfl
  · exact isFolder_withFolder.2 (.inl (h place hold))
  · exact isFolder_withFolder.2 (.inl hnext)

/-- An empty disk is grounded. -/
theorem grounded_empty (root : Location) : Grounded { root := root } := by
  intro place hplace
  simp only [isFolder, List.isPrefixOf_iff_prefix, Bool.or_eq_true, List.contains_nil,
    Bool.false_eq_true, or_false] at hplace ⊢
  exact (List.dropLast_prefix place).trans hplace

/-! ### The way to a folder -/

/-- The places on the way from a folder along some segments. -/
def onWay : Location → List Text → List Location
  | _, [] => []
  | place, segment :: rest => step place segment :: onWay (step place segment) rest

/-- The last segment of a place may be a name. -/
def NameFits (place : Location) : Prop :=
  ∀ name, place.getLast? = some name → nameFault? name = none

/-- A way may go through a place: there is a folder, or one can be made. -/
def Crossable (d : Disk) (place : Location) : Prop :=
  d.isFolder place = true ∨ (d.isFile place = false ∧ NameFits place)

/-- On a grounded disk there is a folder upwards of each folder, so what is no folder lies one segment
further. -/
theorem Grounded.step_eq (h : d.Grounded) (hplace : d.isFolder place = true) {segment : Text}
    (hnext : d.isFolder (step place segment) = false) :
    step place segment = place ++ [segment] := by
  refine step_of_ne ?_ place
  rintro rfl
  rw [step_up, h place hplace] at hnext
  cases hnext

/-- What can be gone through once a folder is made could be gone through before, if the folder
could. -/
theorem crossable_withFolder (hnext : d.Crossable next) :
    (d.withFolder next).Crossable place ↔ d.Crossable place := by
  unfold Crossable
  rw [isFolder_withFolder]
  constructor
  · rintro ((hold | rfl) | hnew)
    · exact .inl hold
    · exact hnext
    · exact .inr hnew
  · rintro (hold | hnew)
    · exact .inl (.inl hold)
    · exact .inr hnew

/-- The folder of some segments is entered if the way goes through each place on it. -/
theorem enter_ok_iff (h : d.Grounded) (hplace : d.isFolder place = true) :
    (∃ folder, (d.enter place making segments).2 = .ok folder) ↔
      ∀ next ∈ onWay place segments, d.Crossable next := by
  induction segments generalizing d place making with
  | nil => simp [enter, onWay]
  | cons segment rest ih =>
    simp only [enter, onWay, List.forall_mem_cons]
    by_cases hfolder : d.isFolder (step place segment) = true
    · rw [if_pos hfolder, ih h hfolder]
      exact (and_iff_right (.inl hfolder)).symm
    · rw [if_neg hfolder]
      rw [Bool.not_eq_true] at hfolder
      have hstep := h.step_eq hplace hfolder
      cases hfile : d.isFile (step place segment) with
      | true =>
        -- a file stands in the way
        rw [if_pos rfl]
        constructor
        · rintro ⟨folder, hok⟩
          cases hok
        · rintro ⟨hcrossable | hcrossable, -⟩
          · rw [hfolder] at hcrossable
            cases hcrossable
          · rw [hfile] at hcrossable
            cases hcrossable.1
      | false =>
        rw [if_neg Bool.false_ne_true]
        have hname : NameFits (step place segment) ↔ nameFault? segment = none := by
          simp [NameFits, hstep]
        have hcrossable : d.Crossable (step place segment) ↔ nameFault? segment = none := by
          simp [Crossable, hfolder, hfile, hname]
        cases hfault : nameFault? segment with
        | some fault => simp [hcrossable, hfault]
        | none =>
          -- the folder is made, and the way goes on from it
          have hnext : d.Crossable (step place segment) := hcrossable.2 hfault
          have hground : (d.withFolder (step place segment)).Grounded :=
            h.withFolder (by rw [hstep, List.dropLast_concat, hplace])
          simp only [ih hground (isFolder_withFolder.2 (.inr rfl)), crossable_withFolder hnext, hnext,
            true_and]

/-- Once a folder is entered, there is a folder at each place on the way, and no other new one. -/
theorem folders_of_enter (h : d.Grounded) (hplace : d.isFolder place = true) {folder : Location}
    (hok : (d.enter place making segments).2 = .ok folder) :
    (d.enter place making segments).1.Grounded ∧
      ∀ other, (d.enter place making segments).1.isFolder other = true ↔
        d.isFolder other = true ∨ other ∈ onWay place segments := by
  induction segments generalizing d place making with
  | nil => exact ⟨h, by simp [enter, onWay]⟩
  | cons segment rest ih =>
    simp only [enter, onWay, List.mem_cons] at hok ⊢
    by_cases hfolder : d.isFolder (step place segment) = true
    · rw [if_pos hfolder] at hok ⊢
      obtain ⟨hground, hfolders⟩ := ih h hfolder hok
      refine ⟨hground, fun other => ?_⟩
      rw [hfolders]
      constructor
      · rintro (hold | hrest)
        · exact .inl hold
        · exact .inr (.inr hrest)
      · rintro (hold | rfl | hrest)
        · exact .inl hold
        · exact .inl hfolder
        · exact .inr hrest
    · rw [if_neg hfolder] at hok ⊢
      rw [Bool.not_eq_true] at hfolder
      have hstep := h.step_eq hplace hfolder
      split at hok
      · cases hok
      · rename_i hfile
        rw [if_neg hfile]
        cases hfault : nameFault? segment with
        | some fault =>
          rw [hfault] at hok
          cases hok
        | none =>
          rw [hfault] at hok
          have hnext : (d.withFolder (step place segment)).Grounded :=
            h.withFolder (by rw [hstep, List.dropLast_concat, hplace])
          obtain ⟨hground, hfolders⟩ := ih hnext (isFolder_withFolder.2 (.inr rfl)) hok
          refine ⟨hground, fun other => ?_⟩
          rw [hfolders, isFolder_withFolder, or_assoc]

/-! ### One file -/

/-- The folders on the way to a file. -/
def way (d : Disk) (path : Text) : List Location := onWay d.root (Path.segments path).dropLast

/-- A disk takes a file: its path may be one and names a file, the way to its folder can be gone, and
no folder stands in its place. -/
structure Welcomes (d : Disk) (path : Text) : Prop where
  folderPath : d.pathFault? (Path.segments path).dropLast = none
  filePath : d.pathFault? (Path.segments path) = none
  name : ∃ name, (Path.segments path).getLast? = some name ∧ nameFault? name = none
  crossable : ∀ next ∈ d.way path, d.Crossable next
  noFolder : d.isFolder (resolve d.root path) = false
  notOnWay : resolve d.root path ∉ d.way path

theorem pathFault?_congr {d' : Disk} (h : d'.root = d.root) (segments : List Text) :
    d'.pathFault? segments = d.pathFault? segments := by
  rw [pathFault?, pathFault?, h]

theorem isFile_put {at' : Location} : (d.put place content).isFile at' = true ↔
    d.isFile at' = true ∨ at' = place := by
  simp only [isFile, put, List.any_append, List.any_filter, Bool.or_eq_true, List.any_eq_true,
    Bool.and_eq_true, bne_iff_ne, beq_iff_eq, List.any_cons, List.any_nil, Bool.or_false]
  constructor
  · rintro (⟨file, hfile, -, hplace⟩ | hplace)
    · exact .inl ⟨file, hfile, hplace⟩
    · exact .inr hplace.symm
  · rintro (⟨file, hfile, rfl⟩ | rfl)
    · by_cases hplace : file.1 = place
      · exact .inr hplace.symm
      · exact .inl ⟨file, hfile, hplace, rfl⟩
    · exact .inr rfl

/-- A file that is welcome is taken: folders are made on the way, and the file is put at its place. -/
theorem Welcomes.write_eq (hw : d.Welcomes path) (h : d.Grounded) (content : Text) :
    ∃ made : Disk, d.write path content = (made.put (resolve d.root path) content, .ok ()) ∧
      made.Grounded ∧ made.root = d.root ∧ made.files = d.files ∧
      ∀ other, made.isFolder other = true ↔ d.isFolder other = true ∨ other ∈ d.way path := by
  obtain ⟨hfolderPath, hfilePath, ⟨name, hlast, hname⟩, hcrossable, hnoFolder, hnotOnWay⟩ := hw
  have henter : ∃ folder, (d.enter d.root false (Path.segments path).dropLast).2 = .ok folder :=
    (enter_ok_iff h d.isFolder_root).2 hcrossable
  obtain ⟨folder, hok⟩ := henter
  obtain ⟨hground, hfolders⟩ := folders_of_enter h d.isFolder_root hok
  obtain ⟨hroot, hfiles⟩ := d.enter_fst d.root false (Path.segments path).dropLast
  have hplace : step folder name = resolve d.root path := by
    rw [folder_of_enter hok, resolve_eq_step hlast]
  have hmake : d.makeFolder (Path.segments path).dropLast =
      ((d.enter d.root false (Path.segments path).dropLast).1, .ok folder) := by
    rw [makeFolder, hfolderPath]
    exact Prod.ext rfl hok
  have hfree : (d.enter d.root false (Path.segments path).dropLast).1.isFolder
      (resolve d.root path) = false := by
    rw [← Bool.not_eq_true, hfolders, hnoFolder]
    exact not_or.2 ⟨Bool.false_ne_true, hnotOnWay⟩
  refine ⟨_, ?_, hground, hroot, hfiles, hfolders⟩
  simp only [write, hmake, pathFault?_congr hroot, hfilePath, hlast, putInto, hplace, hfree, hname,
    Bool.false_eq_true, if_false]

theorem Welcomes.write_ok (hw : d.Welcomes path) (h : d.Grounded) (content : Text) :
    (d.write path content).2 = .ok () := by
  obtain ⟨made, hwrite, -⟩ := hw.write_eq h content
  rw [hwrite]

theorem Welcomes.grounded_write (hw : d.Welcomes path) (h : d.Grounded) :
    (d.write path content).1.Grounded := by
  obtain ⟨made, hwrite, hground, -⟩ := hw.write_eq h content
  rw [hwrite]
  exact hground

/-- A file that is taken was welcome. -/
theorem welcomes_of_write (h : d.Grounded) (hok : (d.write path content).2 = .ok ()) :
    d.Welcomes path := by
  unfold write at hok
  cases hfolderPath : d.pathFault? (Path.segments path).dropLast with
  | some fault => simp [makeFolder, hfolderPath] at hok
  | none =>
    have hmake : d.makeFolder (Path.segments path).dropLast =
        d.enter d.root false (Path.segments path).dropLast := by rw [makeFolder, hfolderPath]
    rcases henter : d.enter d.root false (Path.segments path).dropLast with ⟨made, fault | folder⟩
    · simp [hmake, henter] at hok
    · have hfolder := congrArg Prod.snd henter
      obtain ⟨-, hfolders⟩ := folders_of_enter h d.isFolder_root hfolder
      have hroot := (d.enter_fst d.root false (Path.segments path).dropLast).1
      rw [henter] at hfolders hroot
      simp only [hmake, henter, pathFault?_congr hroot] at hok
      split at hok
      · cases hok
      · rename_i hfilePath
        split at hok
        · cases hok
        · rename_i name hlast
          have hplace : step folder name = resolve d.root path := by
            rw [folder_of_enter hfolder, resolve_eq_step hlast]
          simp only [putInto, hplace] at hok
          split at hok
          · cases hok
          · rename_i hfree
            rw [hfolders, not_or] at hfree
            split at hok
            · cases hok
            · rename_i hname
              exact ⟨hfolderPath, hfilePath, ⟨name, hlast, hname⟩,
                (enter_ok_iff h d.isFolder_root).1 ⟨folder, hfolder⟩,
                by simpa using hfree.1, hfree.2⟩

/-! ### Several files -/

/-- After a file was taken, a way can still go through each other place. -/
theorem Welcomes.crossable_write_iff (hw : d.Welcomes path) (h : d.Grounded) :
    (d.write path content).1.Crossable next ↔ d.Crossable next ∧ next ≠ resolve d.root path := by
  obtain ⟨made, hwrite, -, -, hfiles, hfolders⟩ := hw.write_eq h content
  have hfolder : (d.write path content).1.isFolder next = true ↔
      d.isFolder next = true ∨ next ∈ d.way path := by
    rw [hwrite]
    exact hfolders next
  have hfile : (d.write path content).1.isFile next = false ↔
      d.isFile next = false ∧ next ≠ resolve d.root path := by
    rw [hwrite, ← Bool.not_eq_true, isFile_put, isFile, hfiles, not_or, Bool.not_eq_true]
    rfl
  rw [Crossable, hfolder, hfile, Crossable]
  constructor
  · rintro ((hold | hway) | ⟨⟨hnew, hne⟩, hfits⟩)
    · refine ⟨.inl hold, ?_⟩
      rintro rfl
      rw [hw.noFolder] at hold
      cases hold
    · refine ⟨hw.crossable next hway, ?_⟩
      rintro rfl
      exact hw.notOnWay hway
    · exact ⟨.inr ⟨hnew, hfits⟩, hne⟩
  · rintro ⟨hold | ⟨hnew, hfits⟩, hne⟩
    · exact .inl (.inl hold)
    · exact .inr ⟨⟨hnew, hne⟩, hfits⟩

/-- After a file was taken, another one is welcome if it was before, and neither comes to stand where
the path of the other one goes on. -/
theorem Welcomes.write_iff (hw : d.Welcomes path) (h : d.Grounded) {other : Text} :
    (d.write path content).1.Welcomes other ↔ d.Welcomes other ∧
      resolve d.root path ∉ d.way other ∧ resolve d.root other ∉ d.way path := by
  have hroot := root_write d path content
  have hway : (d.write path content).1.way other = d.way other := by rw [way, hroot, way]
  have hfolder : (d.write path content).1.isFolder (resolve d.root other) = false ↔
      d.isFolder (resolve d.root other) = false ∧ resolve d.root other ∉ d.way path := by
    obtain ⟨made, hwrite, -, -, -, hfolders⟩ := hw.write_eq h content
    rw [hwrite, ← Bool.not_eq_true, ← Bool.not_eq_true, ← not_or]
    exact not_congr (hfolders _)
  constructor
  · rintro ⟨hfolderPath, hfilePath, hname, hcrossable, hnoFolder, hnotOnWay⟩
    simp only [hway, hw.crossable_write_iff h] at hcrossable
    rw [hroot] at hnoFolder hnotOnWay
    rw [hway] at hnotOnWay
    rw [pathFault?_congr hroot] at hfolderPath hfilePath
    exact ⟨⟨hfolderPath, hfilePath, hname, fun next hnext => (hcrossable next hnext).1,
      (hfolder.1 hnoFolder).1, hnotOnWay⟩, fun hnext => (hcrossable _ hnext).2 rfl,
      (hfolder.1 hnoFolder).2⟩
  · rintro ⟨⟨hfolderPath, hfilePath, hname, hcrossable, hnoFolder, hnotOnWay⟩, hpast, hother⟩
    refine ⟨(pathFault?_congr hroot _).trans hfolderPath, (pathFault?_congr hroot _).trans hfilePath,
      hname, fun next hnext => ?_, ?_, ?_⟩
    · rw [hway] at hnext
      refine (hw.crossable_write_iff h).2 ⟨hcrossable next hnext, ?_⟩
      rintro rfl
      exact hpast hnext
    · rw [hroot]
      exact hfolder.2 ⟨hnoFolder, hother⟩
    · rwa [hroot, hway]

/-- No file comes to stand where the path of another one goes on. -/
def Apart (d : Disk) (files : List GeneratedFile) : Prop :=
  ∀ file ∈ files, ∀ other ∈ files, resolve d.root file.path ∉ d.way other.path

theorem apart_cons : d.Apart (file :: files) ↔ resolve d.root file.path ∉ d.way file.path ∧
    (∀ other ∈ files, resolve d.root file.path ∉ d.way other.path ∧
      resolve d.root other.path ∉ d.way file.path) ∧ d.Apart files := by
  simp only [Apart, List.forall_mem_cons]
  constructor
  · rintro ⟨⟨hself, hpast⟩, hrest⟩
    exact ⟨hself, fun other hother => ⟨hpast other hother, (hrest other hother).1⟩,
      fun other hother => (hrest other hother).2⟩
  · rintro ⟨hself, hboth, hrest⟩
    exact ⟨⟨hself, fun other hother => (hboth other hother).1⟩,
      fun other hother => ⟨(hboth other hother).2, hrest other hother⟩⟩

theorem apart_write : (d.write path content).1.Apart files ↔ d.Apart files := by
  simp only [Apart, way, root_write]

/-- **A disk takes some files if each is welcome and none comes to stand where the path of another one
goes on.** -/
theorem takes_iff (h : d.Grounded) : d.Takes files ↔
    (∀ file ∈ files, d.Welcomes file.path) ∧ d.Apart files := by
  induction files generalizing d with
  | nil => simp [Takes, Apart]
  | cons file rest ih =>
    rw [Takes, List.forall_mem_cons, apart_cons]
    constructor
    · rintro ⟨hok, hrest⟩
      have hw := welcomes_of_write h hok
      obtain ⟨hwelcome, hapart⟩ := (ih (hw.grounded_write h)).1 hrest
      simp only [hw.write_iff h] at hwelcome
      exact ⟨⟨hw, fun other hother => (hwelcome other hother).1⟩, hw.notOnWay,
        fun other hother => (hwelcome other hother).2, apart_write.1 hapart⟩
    · rintro ⟨⟨hw, hwelcome⟩, -, hboth, hapart⟩
      refine ⟨hw.write_ok h _, (ih (hw.grounded_write h)).2 ⟨fun other hother => ?_,
        apart_write.2 hapart⟩⟩
      exact (hw.write_iff h).2 ⟨hwelcome other hother, hboth other hother⟩

/-- So it takes them in any order. -/
theorem takes_perm (h : d.Grounded) (hperm : files.Perm files') : d.Takes files ↔ d.Takes files' := by
  simp only [takes_iff h, Apart, hperm.mem_iff]

end KotlinPreferences.Disk
