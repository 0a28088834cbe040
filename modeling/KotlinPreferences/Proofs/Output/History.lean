import KotlinPreferences.Grouping
import KotlinPreferences.Proofs.Output.Putting
import Mathlib.Data.List.Induction

/-!
# Sinks and their history

What a sink holds and how it answers, said by what was done with it since it was empty. Any number
of files may be open at the same time, and a character may be split between two writes.

* `Sink.Action`, `Sink.perform`, `Sink.run`: a sink as a machine, one action after another;
* `Action.handedOut`, `Action.closed`, `Action.written`, `Action.committed`: what a history says
  about the files, without a sink;
* `Sink.Scoped`: files are only used after they were handed out;
* `Sink.Remembers`: the state of a sink agrees with its history, and each action keeps it so;
* `Sink.run_agrees_history`: what follows for the files and for the answer to every action.
-/

namespace KotlinPreferences

namespace Sink

/-! ### Actions -/

/-- Something that is done with a sink. A scope around a file is entered and left, and anything may
be done in between. -/
inductive Action where
  | create (dependencies : Dependencies) (package name extension : Text)
  | write (handle : Nat) (bytes : ByteArray)
  | close (handle : Nat)
  | enter (handle : Nat)
  | leave (handle : Nat) (ending : ScopeEnd)

/-- How a sink answers to an action. -/
inductive Answer where
  /-- A new file was handed out. -/
  | opened (handle : Nat)
  /-- So many bytes were written. -/
  | written (count : Nat)
  | done
  /-- A scope was left, and ended in this way. -/
  | left (ending : ScopeEnd)
  | raised (failure : Failure)

/-- The sink after an action, and its answer. -/
def perform (s : Sink) : Action → Sink × Answer
  | .create dependencies package name extension =>
    match s.create dependencies package name extension with
    | .error failure => (s, .raised failure)
    | .ok (handle, s) => (s, .opened handle)
  | .write handle bytes =>
    match s.write handle bytes with
    | .error failure => (s, .raised failure)
    | .ok s => (s, .written bytes.size)
  | .close handle =>
    match s.close handle with
    | (s, .error failure) => (s, .raised failure)
    | (s, .ok ()) => (s, .done)
  | .enter _ => (s, .done)
  | .leave handle ending => ((s.leave handle ending).1, .left (s.leave handle ending).2)

/-- The sink after some actions. -/
def run (s : Sink) (actions : List Action) : Sink := actions.foldl (fun s a => (s.perform a).1) s

theorem run_concat (s : Sink) (past : List Action) (a : Action) :
    s.run (past ++ [a]) = ((s.run past).perform a).1 := by
  rw [run, List.foldl_append]
  rfl

/-! ### What a history says -/

namespace Action

/-- What a creation fixes about its file. -/
def header? : Action → Option FileHeader
  | create dependencies package name extension =>
    some ⟨package, name, Path.relativePath package name extension, dependencies⟩
  | _ => none

/-- The file that an action closes, if it is open. -/
def closes? : Action → Option Nat
  | close handle => some handle
  | leave handle _ => some handle
  | _ => none

/-- The file that an action uses. -/
def uses? : Action → Option Nat
  | create .. => none
  | write handle _ => some handle
  | close handle => some handle
  | enter handle => some handle
  | leave handle _ => some handle

/-- The bytes that an action writes to a file. -/
def bytesTo (handle : Nat) : Action → ByteArray
  | write other bytes => if other = handle then bytes else .empty
  | _ => .empty

/-- The package and the name of a file. -/
def fileName (header : FileHeader) : Text × Text := (header.package, header.name)

/-- The first creation under a package and a name. -/
def firstCreation? (past : List Action) (package name : Text) : Option FileHeader :=
  (past.filterMap header?).find? fun header => fileName header = (package, name)

/-- The files handed out, by their numbers: one for the first creation under each package and
name. -/
def handedOut (past : List Action) : List FileHeader := distinctOn fileName (past.filterMap header?)

/-- The files closed, in the order in which each was closed first. -/
def closed (past : List Action) : List Nat := distinct (past.filterMap closes?)

/-- The bytes written to a file before it was closed. -/
def written (handle : Nat) : List Action → ByteArray
  | [] => .empty
  | a :: rest => if a.closes? = some handle then .empty else a.bytesTo handle ++ written handle rest

/-- The file of a number with its text, where its bytes are the encoding of one. -/
def file? (past : List Action) (handle : Nat) : Option GeneratedFile :=
  (handedOut past)[handle]?.bind fun header =>
    (Text.decode? (written handle past)).map fun content => ⟨header, content⟩

/-- The files committed: those that were closed and hold the encoding of a text, in the order in
which they were closed first. -/
def committed (past : List Action) : List GeneratedFile := (closed past).filterMap (file? past)

variable {past : List Action} {a : Action} {handle : Nat}

/-- An action that closes a file creates none and writes nothing. -/
theorem of_closes? (h : a.closes? = some handle) :
    a.header? = none ∧ a.uses? = some handle ∧ ∀ other, a.bytesTo other = .empty := by
  cases a with
  | close => exact ⟨rfl, h, fun _ => rfl⟩
  | leave => exact ⟨rfl, h, fun _ => rfl⟩
  | create | write | enter => cases h

theorem mem_of_firstCreation? {package name : Text} {header : FileHeader}
    (h : firstCreation? past package name = some header) :
    header ∈ past.filterMap header? ∧ fileName header = (package, name) := by
  have hname := List.find?_some h
  exact ⟨List.mem_of_find?_eq_some h, by simpa using hname⟩

theorem handedOut_concat_of_none (h : a.header? = none) :
    handedOut (past ++ [a]) = handedOut past := by
  simp [handedOut, List.filterMap_append, h]

theorem firstCreation?_eq_none_iff {package name : Text} :
    firstCreation? past package name = none ↔
      (package, name) ∉ (past.filterMap header?).map fileName := by
  rw [firstCreation?, List.find?_eq_none, List.mem_map]
  constructor
  · rintro h ⟨header, hmem, hname⟩
    exact h header hmem (decide_eq_true hname)
  · intro h header hmem hname
    exact h ⟨header, hmem, of_decide_eq_true hname⟩

theorem handedOut_concat_of_some {header : FileHeader} (h : a.header? = some header) :
    handedOut (past ++ [a]) =
      if fileName header ∈ (past.filterMap header?).map fileName then handedOut past
      else handedOut past ++ [header] := by
  simp [handedOut, List.filterMap_append, h, distinctOn_concat]

/-- Under a new name a file is handed out. -/
theorem handedOut_concat_of_firstCreation? {header : FileHeader}
    (hnew : firstCreation? past header.package header.name = none) (h : a.header? = some header) :
    handedOut (past ++ [a]) = handedOut past ++ [header] := by
  rw [handedOut_concat_of_some h]
  exact if_neg (firstCreation?_eq_none_iff.1 hnew)

theorem closed_concat_of_none (h : a.closes? = none) : closed (past ++ [a]) = closed past := by
  simp [closed, List.filterMap_append, h]

theorem closed_concat_of_some (h : a.closes? = some handle) :
    closed (past ++ [a]) = if handle ∈ closed past then closed past else closed past ++ [handle] := by
  simp [closed, List.filterMap_append, h, distinct_concat, mem_distinct]

theorem written_concat : written handle (past ++ [a]) =
    if handle ∈ closed past ∨ a.closes? = some handle then written handle past
    else written handle past ++ a.bytesTo handle := by
  induction past with
  | nil => by_cases h : a.closes? = some handle <;> simp [written, closed, distinct, h]
  | cons b rest ih =>
    have hmem : handle ∈ closed (b :: rest) ↔ b.closes? = some handle ∨ handle ∈ closed rest := by
      simp [closed, mem_distinct]
    rw [List.cons_append, written, ih, written]
    by_cases hb : b.closes? = some handle
    · rw [if_pos hb, if_pos hb, if_pos (.inl (hmem.2 (.inl hb)))]
    · rw [if_neg hb, if_neg hb]
      simp only [hmem, hb, false_or]
      split
      · rfl
      · rw [ByteArray.append_assoc]

/-- Once a file is closed, nothing is written to it any more. -/
theorem written_concat_of_mem (h : handle ∈ closed past) :
    written handle (past ++ [a]) = written handle past := by
  rw [written_concat, if_pos (.inl h)]

theorem written_concat_of_bytesTo (h : a.bytesTo handle = .empty) :
    written handle (past ++ [a]) = written handle past := by
  rw [written_concat, h, ByteArray.append_empty]
  exact ite_self _

theorem file?_eq_of_handedOut {header : FileHeader} (h : (handedOut past)[handle]? = some header) :
    file? past handle = (Text.decode? (written handle past)).map fun content =>
      ⟨header, content⟩ := by
  rw [file?, h, Option.bind_some]

/-- An action uses only a file that was handed out. -/
def Known (past : List Action) (a : Action) : Prop :=
  ∀ handle ∈ a.uses?, handle < (handedOut past).length

instance (past : List Action) (a : Action) : Decidable (a.Known past) :=
  inferInstanceAs (Decidable (∀ handle ∈ a.uses?, handle < (handedOut past).length))

/-- The files handed out keep their numbers. -/
theorem handedOut_mono (past : List Action) (a : Action) :
    handedOut past <+: handedOut (past ++ [a]) := by
  cases h : a.header? with
  | none => exact ⟨[], by rw [handedOut_concat_of_none h, List.append_nil]⟩
  | some header =>
    rw [handedOut_concat_of_some h]
    split
    · exact List.prefix_rfl
    · exact List.prefix_append _ _

end Action

/-- Files are used only after they were handed out. -/
inductive Scoped : List Action → Prop
  | nil : Scoped []
  | concat {past : List Action} {a : Action} : Scoped past → a.Known past → Scoped (past ++ [a])

/-! ### The state of a sink -/

open KotlinPreferences.Sink.Action

variable {s : Sink} {past : List Action} {a : Action} {handle : Nat}

theorem Scoped.lt_of_mem_closed (h : Scoped past) (hmem : handle ∈ closed past) :
    handle < (handedOut past).length := by
  induction h with
  | nil => simp [closed, distinct] at hmem
  | @concat past a _ hknown ih =>
    have hle := (handedOut_mono past a).length_le
    cases hcloses : a.closes? with
    | none =>
      rw [closed_concat_of_none hcloses] at hmem
      exact Nat.lt_of_lt_of_le (ih hmem) hle
    | some other =>
      have huses := (of_closes? hcloses).2.1
      rw [closed_concat_of_some hcloses] at hmem
      split at hmem
      · exact Nat.lt_of_lt_of_le (ih hmem) hle
      · rcases List.mem_append.1 hmem with hold | hnew
        · exact Nat.lt_of_lt_of_le (ih hold) hle
        · rw [List.mem_singleton.1 hnew]
          exact Nat.lt_of_lt_of_le (hknown other huses) hle

/-- Nothing is written to a file before it is handed out. -/
theorem Scoped.written_eq_empty (h : Scoped past) (hle : (handedOut past).length ≤ handle) :
    written handle past = .empty := by
  induction h with
  | nil => rfl
  | @concat past a _ hknown ih =>
    have hpast := Nat.le_trans (handedOut_mono past a).length_le hle
    have hbytes : a.bytesTo handle = .empty := by
      cases a with
      | write other bytes =>
        have hlt := hknown other rfl
        exact if_neg (by omega)
      | _ => rfl
    rw [written_concat_of_bytesTo hbytes, ih hpast]

/-- What was committed of a closed file is fixed. -/
theorem Scoped.file?_concat (h : Scoped past) (hmem : handle ∈ closed past) :
    file? (past ++ [a]) handle = file? past handle := by
  obtain ⟨more, hmore⟩ := handedOut_mono past a
  rw [file?, file?, written_concat_of_mem hmem, ← hmore,
    List.getElem?_append_left (h.lt_of_mem_closed hmem)]

/-- Only an action that closes a file adds to the files committed. -/
theorem Scoped.committed_concat (h : Scoped past) (hclosed : closed (past ++ [a]) = closed past) :
    committed (past ++ [a]) = committed past := by
  rw [committed, committed, hclosed]
  exact List.filterMap_congr fun handle hmem => h.file?_concat hmem

/-- Closing an open file commits it, if its bytes are the encoding of a text. -/
theorem Scoped.committed_concat_of_closes (h : Scoped past) (hcloses : a.closes? = some handle)
    (hopen : handle ∉ closed past) :
    committed (past ++ [a]) = committed past ++ (file? past handle).toList := by
  have hfile : file? (past ++ [a]) handle = file? past handle := by
    rw [file?, file?, handedOut_concat_of_none (of_closes? hcloses).1, written_concat,
      if_pos (.inr hcloses)]
  rw [committed, closed_concat_of_some hcloses, if_neg hopen, List.filterMap_append, committed]
  congr 1
  · exact List.filterMap_congr fun other hmem => h.file?_concat hmem
  · rw [List.filterMap_cons, hfile]
    cases file? past handle <;> rfl

/-- The state of a sink agrees with its history: the names taken, the files handed out with what
was written to them, and the files committed. -/
structure Remembers (past : List Action) (s : Sink) : Prop where
  created : s.created = (handedOut past).map fun header => (fileName header, header.path)
  handles : s.handles = (handedOut past).mapIdx fun handle header =>
    ⟨header, written handle past, decide (handle ∈ closed past)⟩
  files : s.files = committed past

/-- The sink after an open file was closed. -/
def closing (s : Sink) (past : List Action) (handle : Nat) (header : FileHeader) : Sink where
  files := s.files ++ (file? past handle).toList
  created := s.created
  handles := s.handles.set handle ⟨header, written handle past, true⟩
  disk := (file? past handle).elim s.disk fun file =>
    s.disk.map fun disk => (disk.write file.path file.content).1

/-- What becomes of an open file that is closed: it is committed, which the disk of the sink may
refuse, or its bytes are the encoding of no text. -/
def closeResult (s : Sink) (past : List Action) (handle : Nat) : Except Failure Unit :=
  match file? past handle with
  | none => .error .undecodable
  | some file => s.taking file

namespace Remembers

theorem start (disk : Option Disk) : Remembers [] { disk := disk } := ⟨rfl, rfl, rfl⟩

theorem lookup_created (h : Remembers past s) (package name : Text) :
    s.created.lookup (package, name) = (firstCreation? past package name).map FileHeader.path := by
  rw [h.created, firstCreation?, ← find?_distinctOn, ← handedOut]
  induction handedOut past with
  | nil => rfl
  | cons header rest ih =>
    rw [List.map_cons, List.lookup_cons, List.find?_cons, ih]
    by_cases hname : fileName header = (package, name)
    · simp [hname]
    · have hne : ((package, name) == fileName header) = false := by
        simpa using fun h => hname h.symm
      simp only [hne, hname, decide_false]

theorem getElem?_handles (h : Remembers past s) (handle : Nat) :
    s.handles[handle]? = ((handedOut past)[handle]?).map fun header =>
      ⟨header, written handle past, decide (handle ∈ closed past)⟩ := by
  rw [h.handles, List.getElem?_mapIdx]

theorem length_handles (h : Remembers past s) : s.handles.length = (handedOut past).length := by
  rw [h.handles, List.length_mapIdx]

/-- An action that adds nothing to the history leaves the sink in agreement as it is. -/
theorem of_unchanged (h : Remembers past s) (hscoped : Scoped past)
    (hhanded : handedOut (past ++ [a]) = handedOut past)
    (hclosed : closed (past ++ [a]) = closed past)
    (hwritten : ∀ handle, written handle (past ++ [a]) = written handle past) :
    Remembers (past ++ [a]) s where
  created := by rw [hhanded, h.created]
  handles := by simp only [hhanded, hclosed, hwritten, h.handles]
  files := by rw [hscoped.committed_concat hclosed, h.files]

/-- After one of the files has changed as its history did, all of them agree again. -/
theorem handles_set (h : Remembers past s) (hhanded : handedOut (past ++ [a]) = handedOut past)
    {header : FileHeader} (hheader : (handedOut past)[handle]? = some header)
    (hothers : ∀ other, other ≠ handle → written other (past ++ [a]) = written other past ∧
      (other ∈ closed (past ++ [a]) ↔ other ∈ closed past)) :
    s.handles.set handle ⟨header, written handle (past ++ [a]),
        decide (handle ∈ closed (past ++ [a]))⟩ =
      (handedOut (past ++ [a])).mapIdx fun handle header =>
        ⟨header, written handle (past ++ [a]), decide (handle ∈ closed (past ++ [a]))⟩ := by
  apply List.ext_getElem?
  intro other
  rw [List.getElem?_mapIdx, hhanded, List.getElem?_set]
  by_cases hother : handle = other
  · subst hother
    have hlt : handle < s.handles.length := by
      rw [h.length_handles]
      exact (List.getElem?_eq_some_iff.1 hheader).1
    simp [hlt, hheader]
  · obtain ⟨hwritten, hclosed⟩ := hothers other (Ne.symm hother)
    rw [if_neg hother, h.getElem?_handles]
    simp only [hwritten, hclosed]

/-! ### Creating -/

section Create

variable (dependencies : Dependencies) (package name extension : Text)

/-- A name that was created before is refused, with the path of its first creation. -/
theorem perform_create_of_some (h : Remembers past s) {header : FileHeader}
    (hfirst : firstCreation? past package name = some header) :
    s.perform (.create dependencies package name extension) =
      (s, .raised (.existingFile header.path)) := by
  simp only [perform, Sink.create, h.lookup_created, hfirst, Option.map_some]

/-- Under a new name a file is handed out. -/
theorem perform_create_of_none (h : Remembers past s)
    (hfirst : firstCreation? past package name = none) :
    let path := Path.relativePath package name extension
    s.perform (.create dependencies package name extension) =
      ({ s with
          created := s.created ++ [((package, name), path)]
          handles := s.handles ++ [⟨⟨package, name, path, dependencies⟩, ByteArray.empty, false⟩] },
        .opened (handedOut past).length) := by
  simp only [perform, Sink.create, h.lookup_created, hfirst, Option.map_none, h.length_handles]

/-- A creation adds its file if its name is new, and nothing otherwise. -/
theorem create (h : Remembers past s) (hscoped : Scoped past) :
    Remembers (past ++ [.create dependencies package name extension])
      (s.perform (.create dependencies package name extension)).1 := by
  have hhanded := @handedOut_concat_of_some past
    (.create dependencies package name extension) _ rfl
  have hclosed := @closed_concat_of_none past (.create dependencies package name extension) rfl
  have hwritten := fun handle => @written_concat_of_bytesTo past
    (.create dependencies package name extension) handle rfl
  cases hfirst : firstCreation? past package name with
  | some first =>
    obtain ⟨hin, hname⟩ := mem_of_firstCreation? hfirst
    have hmem : (package, name) ∈ (past.filterMap header?).map fileName :=
      List.mem_map.2 ⟨first, hin, hname⟩
    rw [h.perform_create_of_some _ _ _ _ hfirst]
    exact h.of_unchanged hscoped (hhanded.trans (if_pos hmem)) hclosed hwritten
  | none =>
    replace hhanded := hhanded.trans (if_neg (firstCreation?_eq_none_iff.1 hfirst))
    -- the number of the new file is the first that is not in use
    have hunused : (handedOut past).length ∉ closed past := fun hmem =>
      Nat.lt_irrefl _ (hscoped.lt_of_mem_closed hmem)
    rw [h.perform_create_of_none _ _ _ _ hfirst]
    constructor
    · rw [hhanded, List.map_append, ← h.created]
      rfl
    · simp only [hhanded, hclosed, hwritten, List.mapIdx_concat, ← h.handles,
        hscoped.written_eq_empty (Nat.le_refl _), hunused, decide_false]
    · rw [hscoped.committed_concat hclosed, ← h.files]

end Create

/-! ### Writing -/

section Write

variable (bytes : ByteArray)

theorem perform_write_of_closed (h : Remembers past s) (hclosed : handle ∈ closed past)
    (hlt : handle < (handedOut past).length) :
    s.perform (.write handle bytes) = (s, .raised .closedFile) := by
  simp only [perform, Sink.write, h.getElem?_handles, List.getElem?_eq_getElem hlt, Option.map_some,
    hclosed, decide_true, if_true]

theorem perform_write_of_open (h : Remembers past s) (hopen : handle ∉ closed past)
    {header : FileHeader} (hheader : (handedOut past)[handle]? = some header) :
    s.perform (.write handle bytes) =
      ({ s with
          handles := s.handles.set handle ⟨header, written handle past ++ bytes, false⟩ },
        .written bytes.size) := by
  simp only [perform, Sink.write, h.getElem?_handles, hheader, Option.map_some, hopen, decide_false,
    Bool.false_eq_true, if_false]

/-- A write to an open file adds its bytes, and a write to a closed one nothing. -/
theorem write (h : Remembers past s) (hscoped : Scoped past)
    (hlt : handle < (handedOut past).length) :
    Remembers (past ++ [.write handle bytes]) (s.perform (.write handle bytes)).1 := by
  have hhanded : handedOut (past ++ [.write handle bytes]) = handedOut past :=
    handedOut_concat_of_none rfl
  have hclosed : closed (past ++ [.write handle bytes]) = closed past := closed_concat_of_none rfl
  have hothers : ∀ other, other ≠ handle →
      written other (past ++ [.write handle bytes]) = written other past := fun other hne =>
    written_concat_of_bytesTo (if_neg hne.symm)
  by_cases hmem : handle ∈ closed past
  · rw [h.perform_write_of_closed bytes hmem hlt]
    refine h.of_unchanged hscoped hhanded hclosed fun other => ?_
    by_cases hother : other = handle
    · rw [hother, written_concat_of_mem hmem]
    · exact hothers other hother
  · obtain ⟨header, hheader⟩ : ∃ header, (handedOut past)[handle]? = some header :=
      ⟨_, List.getElem?_eq_getElem hlt⟩
    have hset := h.handles_set hhanded hheader fun other hne =>
      ⟨hothers other hne, by rw [hclosed]⟩
    have hwritten : written handle (past ++ [.write handle bytes]) = written handle past ++ bytes := by
      rw [written_concat, if_neg (by simp [hmem, closes?]), bytesTo, if_pos rfl]
    rw [h.perform_write_of_open bytes hmem hheader]
    constructor
    · rw [hhanded, ← h.created]
    · rw [← hset, hwritten, hclosed, decide_eq_false hmem]
    · rw [hscoped.committed_concat hclosed, ← h.files]

end Write

/-! ### Closing -/

theorem close_of_closed (h : Remembers past s) (hclosed : handle ∈ closed past)
    (hlt : handle < (handedOut past).length) : s.close handle = (s, .ok ()) := by
  simp only [Sink.close, h.getElem?_handles, List.getElem?_eq_getElem hlt, Option.map_some, hclosed,
    decide_true, if_true]

theorem close_of_open (h : Remembers past s) (hopen : handle ∉ closed past)
    {header : FileHeader} (hheader : (handedOut past)[handle]? = some header) :
    s.close handle = (closing s past handle header, closeResult s past handle) := by
  have hfile := file?_eq_of_handedOut hheader
  simp only [Sink.close, h.getElem?_handles, hheader, Option.map_some, hopen, decide_false,
    Bool.false_eq_true, if_false]
  cases htext : Text.decode? (written handle past) with
  | none =>
    rw [htext, Option.map_none] at hfile
    simp only [closing, closeResult, hfile, Option.toList_none, List.append_nil, Option.elim_none]
  | some content =>
    rw [htext, Option.map_some] at hfile
    simp only [closing, closeResult, hfile, Option.toList_some, Option.elim_some, commit_eq]
    rfl

/-- An open file that is closed becomes a closed one, and nothing happens to one that was closed. -/
theorem close (h : Remembers past s) (hscoped : Scoped past) (hcloses : a.closes? = some handle)
    (hlt : handle < (handedOut past).length) : Remembers (past ++ [a]) (s.close handle).1 := by
  obtain ⟨hheader, -, hbytes⟩ := of_closes? hcloses
  have hhanded : handedOut (past ++ [a]) = handedOut past := handedOut_concat_of_none hheader
  have hwritten : ∀ other, written other (past ++ [a]) = written other past := fun other =>
    written_concat_of_bytesTo (hbytes other)
  have hclosed : closed (past ++ [a]) = if handle ∈ closed past then closed past
      else closed past ++ [handle] := closed_concat_of_some hcloses
  by_cases hmem : handle ∈ closed past
  · rw [h.close_of_closed hmem hlt]
    exact h.of_unchanged hscoped hhanded (hclosed.trans (if_pos hmem)) hwritten
  · replace hclosed := hclosed.trans (if_neg hmem)
    obtain ⟨header, hheader⟩ : ∃ header, (handedOut past)[handle]? = some header :=
      ⟨_, List.getElem?_eq_getElem hlt⟩
    have hset := h.handles_set hhanded hheader fun other hne =>
      ⟨hwritten other, by simp [hclosed, hne]⟩
    have hnow : handle ∈ closed (past ++ [a]) := by simp [hclosed]
    rw [h.close_of_open hmem hheader]
    constructor
    · rw [hhanded, ← h.created]
      rfl
    · rw [← hset, hwritten, decide_eq_true hnow]
      rfl
    · rw [hscoped.committed_concat_of_closes hcloses hmem, ← h.files]
      rfl

end Remembers

/-- An action that closes a file leaves the sink as closing it does. -/
theorem perform_fst_of_closes? (s : Sink) (h : a.closes? = some handle) :
    (s.perform a).1 = (s.close handle).1 := by
  cases a with
  | close other =>
    cases h
    simp only [perform]
    rcases s.close handle with ⟨s', failure | u⟩ <;> rfl
  | leave other ending =>
    cases h
    show (s.leave handle ending).1 = _
    rw [leave]
    rcases s.close handle with ⟨s', failure | u⟩ <;> rfl
  | create | write | enter => cases h

/-! ### A whole history -/

/-- Each action keeps the state of a sink in agreement with its history. -/
theorem Remembers.perform (h : Remembers past s) (hscoped : Scoped past) (hknown : a.Known past) :
    Remembers (past ++ [a]) (s.perform a).1 := by
  cases a with
  | create dependencies package name extension => exact h.create _ _ _ _ hscoped
  | write handle bytes => exact h.write bytes hscoped (hknown handle rfl)
  | close handle =>
    rw [perform_fst_of_closes? s rfl]
    exact h.close hscoped rfl (hknown handle rfl)
  | enter handle =>
    refine h.of_unchanged hscoped (handedOut_concat_of_none rfl) (closed_concat_of_none rfl) ?_
    exact fun _ => written_concat_of_bytesTo rfl
  | leave handle ending =>
    rw [perform_fst_of_closes? s rfl]
    exact h.close hscoped rfl (hknown handle rfl)

/-- After any history, the state of a sink agrees with it. -/
theorem remembers_run (disk : Option Disk) (h : Scoped past) :
    Remembers past (run { disk := disk } past) := by
  induction h with
  | nil => exact .start disk
  | concat hscoped hknown ih =>
    rw [run_concat]
    exact ih.perform hscoped hknown

theorem disk_close (h : s.disk = none) (handle : Nat) : (s.close handle).1.disk = none := by
  unfold close
  split
  · exact h
  · split
    · exact h
    · split
      · exact h
      · rw [commit_eq]
        exact congrArg (Option.map _) h

/-- An action that closes no file leaves the disk as it is. -/
theorem disk_perform_of_none (s : Sink) (h : a.closes? = none) : (s.perform a).1.disk = s.disk := by
  cases a with
  | create dependencies package name extension =>
    simp only [perform, create]
    cases s.created.lookup (package, name) <;> rfl
  | write handle bytes =>
    simp only [perform, write]
    cases s.handles[handle]? with
    | none => rfl
    | some f =>
      simp only
      cases f.closed <;> rfl
  | enter handle => rfl
  | close | leave => cases h

/-- A sink without a disk gets none. -/
theorem disk_perform (h : s.disk = none) (a : Action) : (s.perform a).1.disk = none := by
  cases hcloses : a.closes? with
  | none => rw [disk_perform_of_none s hcloses, h]
  | some handle =>
    rw [perform_fst_of_closes? s hcloses]
    exact disk_close h handle

theorem disk_run (h : s.disk = none) (actions : List Action) : (s.run actions).disk = none := by
  induction actions using List.reverseRecOn with
  | nil => exact h
  | append_singleton past a ih =>
    rw [run_concat]
    exact disk_perform ih a

/-- **A sink is what its history says.** Its files are those that were closed and hold the encoding
of a text, in the order in which they were closed first, each as it was created and with all that
was written to it before. A name is handed out once: a second creation is refused with the path of
the first, whatever became of that file, and changes nothing. A closed file takes no bytes and is
not closed again. An open one takes bytes; when it is closed, only bytes that are the encoding of no
text, or the disk, can be in the way. -/
theorem run_agrees_history (disk : Option Disk) (h : Scoped past) :
    let s := run { disk := disk } past
    s.files = committed past ∧
    (disk = none → ∀ file, s.taking file = .ok ()) ∧
    (∀ dependencies package name extension,
      let a := Action.create dependencies package name extension
      (∀ first, firstCreation? past package name = some first →
        s.perform a = (s, .raised (.existingFile first.path))) ∧
      (firstCreation? past package name = none →
        (s.perform a).2 = .opened (handedOut past).length ∧
        handedOut (past ++ [a]) = handedOut past ++
          [⟨package, name, Path.relativePath package name extension, dependencies⟩])) ∧
    ∀ handle, handle < (handedOut past).length →
      s.perform (.enter handle) = (s, .done) ∧
      (handle ∈ closed past →
        (∀ bytes, s.perform (.write handle bytes) = (s, .raised .closedFile)) ∧
        s.perform (.close handle) = (s, .done) ∧
        ∀ ending, s.perform (.leave handle ending) = (s, .left ending)) ∧
      (handle ∉ closed past →
        (∀ bytes, (s.perform (.write handle bytes)).2 = .written bytes.size) ∧
        (file? past handle = none →
          (s.perform (.close handle)).2 = .raised .undecodable ∧
          ∀ ending, (s.perform (.leave handle ending)).2 = .left (.failed .undecodable)) ∧
        ∀ file, file? past handle = some file → s.taking file = .ok () →
          (s.perform (.close handle)).2 = .done ∧
          ∀ ending, (s.perform (.leave handle ending)).2 = .left ending) := by
  intro s
  have hs : Remembers past s := remembers_run disk h
  refine ⟨hs.files, ?_, ?_, ?_⟩
  · intro hdisk file
    have hnone : s.disk = none := disk_run hdisk past
    rw [taking, hnone]
  · intro dependencies package name extension a
    constructor
    · intro first hfirst
      exact hs.perform_create_of_some _ _ _ _ hfirst
    · intro hfirst
      refine ⟨?_, handedOut_concat_of_firstCreation? hfirst rfl⟩
      rw [hs.perform_create_of_none _ _ _ _ hfirst]
  · intro handle hlt
    obtain ⟨header, hheader⟩ : ∃ header, (handedOut past)[handle]? = some header :=
      ⟨_, List.getElem?_eq_getElem hlt⟩
    refine ⟨rfl, ?_, ?_⟩
    · intro hclosed
      have hclose := hs.close_of_closed hclosed hlt
      refine ⟨fun bytes => hs.perform_write_of_closed bytes hclosed hlt, ?_, ?_⟩
      · simp only [perform, hclose]
      · intro ending
        simp only [perform, leave, hclose]
    · intro hopen
      have hclose := hs.close_of_open hopen hheader
      refine ⟨?_, ?_, ?_⟩
      · intro bytes
        rw [hs.perform_write_of_open bytes hopen hheader]
      · intro hfile
        simp only [perform, leave, hclose, closeResult, hfile, implies_true, and_self]
      · intro file hfile htaking
        simp only [perform, leave, hclose, closeResult, hfile, htaking, implies_true,
          and_self]

/-! ### A short history -/

/-- Two files are open at the same time. The bytes of one character are written to the first one by
one; the second gets a byte that no text holds, and its scope is interrupted. -/
def sampleHistory : List Action :=
  [.create ⟨false, []⟩ "app" "A" "kt", .create ⟨false, []⟩ "app" "B" "kt",
    .enter 1, .write 0 ⟨#[0xC3]⟩, .write 1 ⟨#[0xFF]⟩, .write 0 ⟨#[0xA9]⟩,
    .leave 1 .interrupted, .close 0, .close 1]

theorem scoped_sampleHistory : Scoped sampleHistory :=
  ((((((((Scoped.nil.concat (by decide)).concat (by decide)).concat (by decide)).concat
    (by decide)).concat (by decide)).concat (by decide)).concat (by decide)).concat
    (by decide)).concat (by decide)

/-- Only the first file of the short history is committed, with its one character, and the name of
the second stays taken. -/
theorem run_sampleHistory :
    ((run {} sampleHistory).files.map fun file => (file.path, file.content)) =
        ([("kotlin/app/A.kt", "é")] : List (Text × Text)) ∧
      ((run {} sampleHistory).perform (.create ⟨false, []⟩ "app" "B" "txt")).2 =
        .raised (.existingFile "kotlin/app/B.kt") := by
  obtain ⟨hfiles, -, hcreate, -⟩ := run_agrees_history none scoped_sampleHistory
  constructor
  · rw [hfiles]
    decide +kernel
  · have hrefused := (hcreate ⟨false, []⟩ "app" "B" "txt").1 _ rfl
    rw [hrefused]
    rfl

end Sink

end KotlinPreferences
