import KotlinPreferences.Pass
import Mathlib.Data.List.Basic

/-!
# Putting a whole file into a sink

The name of a file is taken before its text is encoded, and a file is closed whatever becomes of it.
So a text without an encoding leaves an empty file behind.

* `GeneratedFile.orEmpty`: the file as it is committed;
* `Sink.holding`: the sink after a file was created, written as far as it goes, and closed;
* `Sink.taking`: what the disk of a sink says to a file; without a disk every file is taken;
* `Sink.putting`: how it ends, which is the word of the disk, or that the text has no encoding;
* `Sink.put_of_new`, `Sink.put_of_created`: what becomes of a file whose name is free, or taken;
* `Workspace.absorb_of_new`, `Workspace.absorb_of_created`: the same for a draft in a workspace.
-/

namespace KotlinPreferences

/-- Whether a disk refuses a file does not depend on what the file holds. -/
theorem Disk.refusal_eq (d : Disk) (path content other : Text) :
    (d.write path content).2 = (d.write path other).2 := by
  rcases hfolder : d.makeFolder (Path.segments path).dropLast with ⟨made, fault | folder⟩
  · simp only [Disk.write, hfolder]
  · cases hfault : made.pathFault? (Path.segments path) with
    | some fault => simp only [Disk.write, hfolder, hfault]
    | none =>
      cases hname : (Path.segments path).getLast? with
      | none => simp only [Disk.write, hfolder, hfault, hname]
      | some name =>
        -- the content only matters once the name is not refused
        simp only [Disk.write, hfolder, hfault, hname, Disk.putInto]
        split
        · rfl
        · cases Disk.nameFault? name <;> rfl

namespace GeneratedFile

variable {file : GeneratedFile}

/-- The file as it is committed. One whose text has no encoding stays empty. -/
def orEmpty (file : GeneratedFile) : GeneratedFile :=
  if file.content.isUnicode then file else { file with content := "" }

@[simp] theorem toFileHeader_orEmpty (file : GeneratedFile) :
    file.orEmpty.toFileHeader = file.toFileHeader := by
  rw [orEmpty]
  split <;> rfl

theorem orEmpty_of_isUnicode (h : file.content.isUnicode = true) : file.orEmpty = file := if_pos h

theorem orEmpty_of_not_isUnicode (h : file.content.isUnicode = false) :
    file.orEmpty = { file with content := "" } :=
  if_neg (by rw [h]; exact Bool.false_ne_true)

theorem content_orEmpty (h : file.content.isUnicode = false) : file.orEmpty.content = "" := by
  rw [orEmpty_of_not_isUnicode h]

/-- What is committed has an encoding. -/
theorem isUnicode_orEmpty (file : GeneratedFile) : file.orEmpty.content.isUnicode = true := by
  cases h : file.content.isUnicode with
  | true => rw [orEmpty_of_isUnicode h, h]
  | false => rw [content_orEmpty h, Text.isUnicode_ofString]

/-- The bytes that are written of a text. -/
def written (file : GeneratedFile) : ByteArray := file.content.encode?.getD ByteArray.empty

/-- They are the encoding of what is committed. -/
theorem decode?_written (file : GeneratedFile) :
    Text.decode? file.written = some file.orEmpty.content := by
  have hsome := Text.isSome_encode? file.content
  cases hbytes : file.content.encode? with
  | none =>
    rw [hbytes, Option.isSome_none] at hsome
    rw [written, hbytes, content_orEmpty hsome.symm]
    rfl
  | some bytes =>
    rw [hbytes, Option.isSome_some] at hsome
    rw [written, hbytes, orEmpty_of_isUnicode hsome.symm]
    exact Text.decode?_of_encode? hbytes

end GeneratedFile

namespace Sink

variable {s : Sink} {dependencies : Dependencies} {package name extension content : Text}
  {file : GeneratedFile} {header : FileHeader} {bytes : ByteArray}

/-- The sink after a file was created, written as far as it goes, and closed. -/
def holding (s : Sink) (file : GeneratedFile) : Sink where
  files := s.files ++ [file.orEmpty]
  created := s.created ++ [((file.package, file.name), file.path)]
  handles := s.handles ++ [⟨file.toFileHeader, file.written, true⟩]
  disk := s.disk.map fun disk => (disk.write file.path file.orEmpty.content).1

/-- What the disk of a sink says to a file. A sink without a disk takes every file. -/
def taking (s : Sink) (file : GeneratedFile) : Except Failure Unit :=
  match s.disk with
  | none => .ok ()
  | some disk => (disk.write file.path file.content).2.mapError Failure.refused

/-- How putting a file ends. The disk is asked when the file is closed, and its refusal takes the
place of the failure to encode the text. -/
def putting (s : Sink) (file : GeneratedFile) : Except Failure Unit :=
  match s.taking file with
  | .error failure => .error failure
  | .ok () => if file.content.isUnicode then .ok () else .error .unencodable

theorem taking_of_disk_eq_none (h : s.disk = none) (file : GeneratedFile) :
    s.taking file = .ok () := by
  rw [taking, h]

/-- Only a disk does not take a file. -/
theorem refused_of_taking {failure : Failure} (h : s.taking file = .error failure) :
    s.disk ≠ none ∧ ∃ fault, failure = .refused fault := by
  unfold taking at h
  split at h
  · cases h
  · rename_i disk hdisk
    cases hwrite : (disk.write file.path file.content).2 with
    | ok u =>
      rw [hwrite] at h
      cases h
    | error fault =>
      rw [hwrite] at h
      cases h
      exact ⟨by simp [hdisk], fault, rfl⟩

/-- A disk refuses an empty file where it would refuse the file with its text. -/
theorem taking_orEmpty (s : Sink) (file : GeneratedFile) : s.taking file.orEmpty = s.taking file := by
  have hpath : file.orEmpty.path = file.path := by rw [GeneratedFile.toFileHeader_orEmpty]
  rw [taking, taking, hpath]
  cases s.disk with
  | none => rfl
  | some disk => simp only [disk.refusal_eq _ _ file.content]

/-- A file is put where its text has an encoding and the disk takes it. -/
theorem putting_eq_ok_iff :
    s.putting file = .ok () ↔ s.taking file = .ok () ∧ file.content.isUnicode = true := by
  rw [putting]
  cases s.taking file with
  | error failure => simp
  | ok u => cases file.content.isUnicode <;> simp

/-- Only the disk, or a text without an encoding, is in the way of a file whose name is free. -/
theorem putting_eq_error_iff {failure : Failure} : s.putting file = .error failure ↔
    s.taking file = .error failure ∨
      s.taking file = .ok () ∧ file.content.isUnicode = false ∧ failure = .unencodable := by
  rw [putting]
  cases s.taking file with
  | error failure' => simp
  | ok u => cases file.content.isUnicode <;> simp [eq_comm]

theorem commit_eq (s : Sink) (file : GeneratedFile) :
    s.commit file =
      ({ s with
          files := s.files ++ [file]
          disk := s.disk.map fun disk => (disk.write file.path file.content).1 }, s.taking file) := by
  cases h : s.disk <;> simp [commit, taking, h]

/-! ### A file that is open -/

/-- The sink after a file was created, and some bytes were written to it. -/
def opened (s : Sink) (header : FileHeader) (bytes : ByteArray) : Sink :=
  { s with
    created := s.created ++ [((header.package, header.name), header.path)]
    handles := s.handles ++ [⟨header, bytes, false⟩] }

theorem create_of_new (h : s.created.lookup (package, name) = none) :
    s.create dependencies package name extension =
      .ok (s.handles.length, s.opened
        ⟨package, name, Path.relativePath package name extension, dependencies⟩
        ByteArray.empty) := by
  simp only [create, h]
  rfl

theorem write_opened (s : Sink) (header : FileHeader) (bytes : ByteArray) :
    (s.opened header ByteArray.empty).write s.handles.length bytes =
      .ok (s.opened header bytes) := by
  simp only [write, opened, List.getElem?_concat_length, List.set_append_right, Nat.sub_self,
    List.set_cons_zero, Nat.le_refl, ByteArray.empty_append, Bool.false_eq_true, reduceIte]

/-- Closing the file that was just written commits what was written of it. -/
theorem close_opened (s : Sink) (file : GeneratedFile) :
    (s.opened file.toFileHeader file.written).close s.handles.length =
      (s.holding file, s.taking file) := by
  have hfile : (⟨file.toFileHeader, file.orEmpty.content⟩ : GeneratedFile) = file.orEmpty := by
    rw [← GeneratedFile.toFileHeader_orEmpty]
  have htaking : ∀ files created handles, taking ⟨files, created, handles, s.disk⟩ file.orEmpty =
      s.taking file := fun _ _ _ => s.taking_orEmpty file
  have hpath : file.orEmpty.path = file.path := by rw [GeneratedFile.toFileHeader_orEmpty]
  simp only [close, opened, List.getElem?_concat_length, List.set_append_right, Nat.sub_self,
    List.set_cons_zero, Nat.le_refl, Bool.false_eq_true, reduceIte, file.decode?_written, hfile,
    commit_eq, htaking, hpath]
  rfl

/-- A file whose name is free is committed; only the disk may refuse it, and a text without an
encoding leaves it empty. -/
theorem put_of_new (h : s.created.lookup (package, name) = none) :
    let file : GeneratedFile :=
      ⟨⟨package, name, Path.relativePath package name extension, dependencies⟩, content⟩
    s.put dependencies package name extension content = (s.holding file, s.putting file) := by
  intro file
  have hsome := Text.isSome_encode? content
  have hcreate : s.create dependencies package name extension =
      .ok (s.handles.length, s.opened file.toFileHeader ByteArray.empty) := create_of_new h
  have hclose := s.close_opened file
  rw [put, hcreate]
  cases hbytes : content.encode? with
  | none =>
    -- nothing is written before the scope ends
    have hunicode : file.content.isUnicode = false := by rw [← hsome, hbytes]; rfl
    have hwritten : file.written = ByteArray.empty := by rw [GeneratedFile.written, hbytes]; rfl
    rw [hwritten] at hclose
    simp only [withinText, hbytes, leave, hclose, putting, hunicode]
    cases s.taking file with
    | error failure => rfl
    | ok u => rfl
  | some bytes =>
    have hunicode : file.content.isUnicode = true := by rw [← hsome, hbytes]; rfl
    have hwritten : file.written = bytes := by rw [GeneratedFile.written, hbytes]; rfl
    rw [hwritten] at hclose
    simp only [withinText, hbytes, within, write_opened, leave, hclose, putting, hunicode]
    cases s.taking file with
    | error failure => rfl
    | ok u => rfl

/-- A file whose name is taken changes nothing. -/
theorem put_of_created {path : Text} (h : s.created.lookup (package, name) = some path) :
    s.put dependencies package name extension content = (s, .error (.existingFile path)) := by
  simp only [put, create, h]

end Sink

/-- The file that a draft becomes. -/
def Draft.file (draft : Draft) : GeneratedFile where
  package := draft.package
  name := draft.name
  path := Path.relativePath draft.package draft.name Vocabulary.fileExtension
  dependencies := ⟨false, draft.sources⟩
  content := draft.content

namespace Workspace

variable {w : Workspace} {draft : Draft} {ds : List Diagnostic}

theorem absorb_of_new (h : w.sink.created.lookup (draft.package, draft.name) = none) :
    w.absorb ⟨ds, .ok (some draft)⟩ =
      (⟨w.sink.holding draft.file, w.diagnostics ++ ds⟩, w.sink.putting draft.file) := by
  simp only [absorb, commit, Sink.put_of_new h]
  rfl

/-- A draft whose name is taken leaves its reports and nothing else. -/
theorem absorb_of_created {path : Text}
    (h : w.sink.created.lookup (draft.package, draft.name) = some path) :
    w.absorb ⟨ds, .ok (some draft)⟩ =
      (⟨w.sink, w.diagnostics ++ ds⟩, .error (.existingFile path)) := by
  simp only [absorb, commit, Sink.put_of_created h]

end Workspace

/-- An empty folder for generated files. -/
def Sample.disk : Disk := { root := ["tmp", "generated"] }

end KotlinPreferences
