import KotlinPreferences.Output.Sink
import Mathlib.Data.List.Basic

/-!
# What writing does to a disk

A file is written to the place where its path leads, and to no other. Of several files written to
one place the last one stays.

* `Disk.contentAt?`: what stands in the file at a place;
* `Disk.enter_fst`, `Disk.folder_of_enter`: going along folders changes no file, and ends where the
  segments lead;
* `Disk.write_cases`: what a write leaves, whether it is refused or not;
* `Disk.writeAll`, `Disk.Takes`: files that are written one after another, and a disk that refuses
  none of them;
* `Disk.contentAt?_writeAll`: what stands at a place afterwards.
-/

namespace KotlinPreferences.Disk

open KotlinPreferences.Path

variable {d : Disk} {place : Location} {path content : Text} {files : List GeneratedFile}

/-- What stands in the file at a place, if there is one. -/
def contentAt? (d : Disk) (place : Location) : Option Text := d.files.lookup place

/-! ### Folders -/

/-- Going along folders keeps the root and the files. -/
theorem enter_fst (d : Disk) (place : Location) (making : Bool) (segments : List Text) :
    (d.enter place making segments).1.root = d.root ∧
      (d.enter place making segments).1.files = d.files := by
  induction segments generalizing d place making with
  | nil => exact ⟨rfl, rfl⟩
  | cons segment rest ih =>
    simp only [enter]
    split
    · exact ih d _ _
    · split
      · exact ⟨rfl, rfl⟩
      · split
        · exact ⟨rfl, rfl⟩
        · exact ih (d.withFolder _) _ _

/-- The folder that is entered lies where the segments lead. -/
theorem folder_of_enter {making : Bool} {segments : List Text} {folder : Location}
    (h : (d.enter place making segments).2 = .ok folder) : folder = segments.foldl step place := by
  induction segments generalizing d place making with
  | nil => exact (Except.ok.inj h).symm
  | cons segment rest ih =>
    simp only [enter] at h
    split at h
    · exact ih h
    · split at h
      · cases h
      · split at h
        · cases h
        · exact ih h

theorem makeFolder_fst (d : Disk) (segments : List Text) :
    (d.makeFolder segments).1.root = d.root ∧ (d.makeFolder segments).1.files = d.files := by
  unfold makeFolder
  split
  · exact ⟨rfl, rfl⟩
  · exact enter_fst d _ _ _

theorem folder_of_makeFolder {segments : List Text} {folder : Location}
    (h : (d.makeFolder segments).2 = .ok folder) : folder = segments.foldl step d.root := by
  unfold makeFolder at h
  split at h
  · cases h
  · exact folder_of_enter h

/-! ### One file -/

/-- A path leads to the place of its last segment in the folder of the others. -/
theorem resolve_eq_step {root : Location} {name : Text} (hlast : (segments path).getLast? = some name) :
    resolve root path = step ((segments path).dropLast.foldl step root) name := by
  rw [resolve, ← List.dropLast_append_getLast? name hlast, List.foldl_append, List.dropLast_concat]
  rfl

/-- A write is refused and leaves the files as they were, or it puts the file at the place where its
path leads. -/
theorem write_cases (d : Disk) (path content : Text) :
    (d.write path content).1.root = d.root ∧
      ((∃ fault, (d.write path content).2 = .error fault) ∧
          (d.write path content).1.files = d.files ∨
        (d.write path content).2 = .ok () ∧
          (d.write path content).1.files = (d.put (resolve d.root path) content).files) := by
  obtain ⟨hroot, hfiles⟩ := d.makeFolder_fst (segments path).dropLast
  rcases hmake : d.makeFolder (segments path).dropLast with ⟨made, fault | folder⟩
  · rw [hmake] at hroot hfiles
    simp only [write, hmake]
    exact ⟨hroot, .inl ⟨⟨fault, rfl⟩, hfiles⟩⟩
  · have hfolder := folder_of_makeFolder (congrArg Prod.snd hmake)
    rw [hmake] at hroot hfiles
    cases hfault : made.pathFault? (segments path) with
    | some fault =>
      simp only [write, hmake, hfault]
      exact ⟨hroot, .inl ⟨⟨fault, rfl⟩, hfiles⟩⟩
    | none =>
      cases hlast : (segments path).getLast? with
      | none =>
        simp only [write, hmake, hfault, hlast]
        exact ⟨hroot, .inl ⟨⟨_, rfl⟩, hfiles⟩⟩
      | some name =>
        have hplace : step folder name = resolve d.root path := by
          rw [resolve_eq_step hlast, ← hfolder]
        simp only [write, hmake, hfault, hlast, putInto, hplace]
        split
        · exact ⟨hroot, .inl ⟨⟨_, rfl⟩, hfiles⟩⟩
        · split
          · exact ⟨hroot, .inl ⟨⟨_, rfl⟩, hfiles⟩⟩
          · refine ⟨hroot, .inr ⟨rfl, ?_⟩⟩
            rw [put, put, show made.files = d.files from hfiles]

theorem root_write (d : Disk) (path content : Text) :
    (d.write path content).1.root = d.root := (write_cases d path content).1

/-- After a write a file stands where it stood before, or where the path leads. -/
theorem mem_files_write {file : Location × Text} (h : file ∈ (d.write path content).1.files) :
    file ∈ d.files ∨ file.1 = resolve d.root path := by
  rcases (write_cases d path content).2 with ⟨-, hfiles⟩ | ⟨-, hfiles⟩
  · exact .inl (hfiles ▸ h)
  · rw [hfiles, put, List.mem_append] at h
    rcases h with hold | hnew
    · exact .inl (List.mem_of_mem_filter hold)
    · exact .inr (congrArg Prod.fst (List.mem_singleton.1 hnew))

theorem lookup_filter_ne {α β : Type} [BEq α] [LawfulBEq α] (l : List (α × β)) {a b : α}
    (h : b ≠ a) : (l.filter fun entry => entry.1 != a).lookup b = l.lookup b := by
  induction l with
  | nil => rfl
  | cons entry rest ih =>
    obtain ⟨key, value⟩ := entry
    by_cases hkey : key = a
    · have hfar : (b == key) = false := beq_false_of_ne (hkey ▸ h)
      rw [List.filter_cons_of_neg (by simp [hkey]), ih, List.lookup_cons, hfar]
    · rw [List.filter_cons_of_pos (by simpa using hkey), List.lookup_cons, List.lookup_cons, ih]

/-- At a place where a file was put stands its content, and everywhere else what stood there. -/
theorem contentAt?_put (d : Disk) (at' : Location) :
    (d.put place content).contentAt? at' =
      if at' = place then some content else d.contentAt? at' := by
  rw [contentAt?, put, List.lookup_append]
  split_ifs with hplace
  · have hgone : (d.files.filter fun file => file.1 != place).lookup at' = none := by
      rw [List.lookup_eq_none_iff]
      intro file hfile
      have hne : file.1 ≠ place := by simpa using (List.mem_filter.1 hfile).2
      exact bne_iff_ne.2 (hplace ▸ hne.symm)
    rw [hgone, hplace, List.lookup_cons_self]
    rfl
  · have hfar : (at' == place) = false := beq_false_of_ne hplace
    rw [lookup_filter_ne _ hplace, List.lookup_cons, hfar, List.lookup_nil, Option.or_none]
    rfl

theorem contentAt?_write (h : (d.write path content).2 = .ok ()) (at' : Location) :
    (d.write path content).1.contentAt? at' =
      if at' = resolve d.root path then some content else d.contentAt? at' := by
  rcases (write_cases d path content).2 with ⟨⟨fault, hfault⟩, -⟩ | ⟨-, hfiles⟩
  · rw [h] at hfault
    cases hfault
  · rw [contentAt?, hfiles]
    exact contentAt?_put d at'

/-! ### Several files -/

/-- The disk after some files were written, one after another. -/
def writeAll (d : Disk) (files : List GeneratedFile) : Disk :=
  files.foldl (fun d file => (d.write file.path file.content).1) d

/-- A disk refuses none of some files that are written to it, one after another. -/
def Takes : Disk → List GeneratedFile → Prop
  | _, [] => True
  | d, file :: rest =>
    (d.write file.path file.content).2 = .ok () ∧ Takes (d.write file.path file.content).1 rest

instance : (d : Disk) → (files : List GeneratedFile) → Decidable (d.Takes files)
  | _, [] => .isTrue trivial
  | d, file :: rest =>
    have := instDecidableTakes (d.write file.path file.content).1 rest
    inferInstanceAs (Decidable ((d.write file.path file.content).2 = .ok () ∧
      Takes (d.write file.path file.content).1 rest))

theorem writeAll_append (d : Disk) (first second : List GeneratedFile) :
    d.writeAll (first ++ second) = (d.writeAll first).writeAll second := List.foldl_append

theorem root_writeAll (d : Disk) (files : List GeneratedFile) : (d.writeAll files).root = d.root := by
  induction files generalizing d with
  | nil => rfl
  | cons file rest ih => exact (ih _).trans (root_write d _ _)

/-- **At each place stands the last file that was written there**, and what stood there before if
none was. -/
theorem contentAt?_writeAll (h : d.Takes files) (at' : Location) :
    (d.writeAll files).contentAt? at' =
      ((files.reverse.find? fun file => resolve d.root file.path = at').map
        GeneratedFile.content).or (d.contentAt? at') := by
  induction files generalizing d with
  | nil => rfl
  | cons file rest ih =>
    obtain ⟨hwrite, hrest⟩ := h
    have hhead := contentAt?_write hwrite at'
    rw [List.reverse_cons, List.find?_append, show d.writeAll (file :: rest) =
      (d.write file.path file.content).1.writeAll rest from rfl, ih hrest, root_write]
    -- a later file at the place hides the first one
    cases rest.reverse.find? fun file => decide (resolve d.root file.path = at') with
    | some later => rfl
    | none =>
      by_cases hplace : resolve d.root file.path = at'
      · simp [hplace, hhead]
      · simp [hplace, hhead, Ne.symm hplace]

end KotlinPreferences.Disk
