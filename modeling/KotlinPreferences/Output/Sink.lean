import KotlinPreferences.Failure
import KotlinPreferences.Output.Disk

/-!
# Output sinks

Where generated files go. A sink hands out files to write to; a file is committed when it is
closed. One package and name is handed out only once, whatever becomes of the file.

* `Sink`, and its operations `create`, `write`, `close`, `leave`, `within`;
* `Sink.put`: a whole file at once;
* `Sink.find?`: a committed file.
-/

namespace KotlinPreferences

/-- What a generated file depends on. A file that does not aggregate has to be generated again only
when one of its sources changes. -/
structure Dependencies where
  aggregating : Bool
  sources : List Value

/-- What is fixed when a file is created. -/
structure FileHeader where
  package : Text
  name : Text
  path : Text
  dependencies : Dependencies

/-- A committed file. -/
structure GeneratedFile extends FileHeader where
  content : Text

/-- A file handed out by a sink, with the bytes written to it so far. -/
structure OpenFile where
  header : FileHeader
  bytes : ByteArray := ByteArray.empty
  closed : Bool := false

/-- A sink. Files that were handed out are known by their number, in the order of creation. -/
structure Sink where
  /-- The committed files, in the order in which they were closed. -/
  files : List GeneratedFile := []
  /-- The paths handed out for each package and name. -/
  created : List ((Text × Text) × Text) := []
  /-- The files handed out, closed or not. -/
  handles : List OpenFile := []
  /-- The disk, for a sink that writes its files there. -/
  disk : Option Disk := none

namespace Sink

/-- Hands out a new file. -/
def create (s : Sink) (dependencies : Dependencies) (package name extension : Text) :
    Except Failure (Nat × Sink) :=
  match s.created.lookup (package, name) with
  | some path => .error (.existingFile path)
  | none =>
    let path := Path.relativePath package name extension
    .ok (s.handles.length,
      { s with
        created := s.created ++ [((package, name), path)]
        handles := s.handles ++ [⟨⟨package, name, path, dependencies⟩, ByteArray.empty, false⟩] })

/-- Whether a file is closed; one that was never handed out counts as closed. -/
def isClosed (s : Sink) (handle : Nat) : Bool :=
  match s.handles[handle]? with
  | some f => f.closed
  | none => true

/-- Writes bytes to a file. -/
def write (s : Sink) (handle : Nat) (bytes : ByteArray) : Except Failure Sink :=
  match s.handles[handle]? with
  | none => .error .closedFile
  | some f =>
    if f.closed then .error .closedFile
    else .ok { s with handles := s.handles.set handle { f with bytes := f.bytes ++ bytes } }

/-- Commits a file, and writes it to the disk of a sink that has one. -/
def commit (s : Sink) (file : GeneratedFile) : Sink × Except Failure Unit :=
  let s := { s with files := s.files ++ [file] }
  match s.disk with
  | none => (s, .ok ())
  | some disk =>
    let (disk, result) := disk.write file.path file.content
    ({ s with disk := some disk }, result.mapError Failure.refused)

/-- Closes a file, which commits it if its bytes are the encoding of a text. A second time nothing
happens. -/
def close (s : Sink) (handle : Nat) : Sink × Except Failure Unit :=
  match s.handles[handle]? with
  | none => (s, .ok ())
  | some f =>
    if f.closed then (s, .ok ())
    else
      let s := { s with handles := s.handles.set handle { f with closed := true } }
      match Text.decode? f.bytes with
      | none => (s, .error .undecodable)
      | some content => s.commit ⟨f.header, content⟩

/-- How a scope around a file ends. -/
inductive ScopeEnd where
  /-- The scope is left at its end. -/
  | finished
  /-- What the scope itself raised goes on. -/
  | interrupted
  /-- Writing or closing failed. -/
  | failed (failure : Failure)

/-- Leaves a scope around a file, which ended in some way. The file is closed, and a failure to
close it takes the place of what went on before. -/
def leave (s : Sink) (handle : Nat) (ending : ScopeEnd) : Sink × ScopeEnd :=
  match s.close handle with
  | (s, .error failure) => (s, .failed failure)
  | (s, .ok ()) => (s, ending)

/-- Writes bytes inside a scope that may be interrupted afterwards. -/
def within (s : Sink) (handle : Nat) (bytes : ByteArray) (interrupted : Bool) : Sink × ScopeEnd :=
  match s.write handle bytes with
  | .error failure => s.leave handle (.failed failure)
  | .ok s => s.leave handle (if interrupted then .interrupted else .finished)

/-- Writes a text inside a scope. A text is encoded only there, so one without an encoding ends the
scope before anything is written. -/
def withinText (s : Sink) (handle : Nat) (content : Text) : Sink × ScopeEnd :=
  match content.encode? with
  | none => s.leave handle (.failed .unencodable)
  | some bytes => s.within handle bytes false

/-- Creates, writes and closes a file that is to hold a text. -/
def put (s : Sink) (dependencies : Dependencies) (package name extension content : Text) :
    Sink × Except Failure Unit :=
  match s.create dependencies package name extension with
  | .error failure => (s, .error failure)
  | .ok (handle, s) =>
    match s.withinText handle content with
    | (s, .failed failure) => (s, .error failure)
    | (s, _) => (s, .ok ())

/-- The first committed file of a package and name. -/
def find? (s : Sink) (package name : Text) : Option GeneratedFile :=
  s.files.find? fun file => file.package == package && file.name == name

end Sink

end KotlinPreferences
