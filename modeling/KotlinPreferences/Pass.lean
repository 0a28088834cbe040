import KotlinPreferences.Holder.Consistency
import KotlinPreferences.Holder.Generation
import KotlinPreferences.Output.Sink

/-!
# Generation passes

A pass goes through the holders of a graph in the order of their nodes. A holder that is not
consistent is deferred to a later pass; every other one is generated on its own. The first failure
ends the pass, and what was reported and committed before it stays.

* `Workspace`: the sink and the diagnostics that passes share;
* `Workspace.generate`: the workspace after one declaration was generated;
* `Workspace.process`: the workspace after a pass, with the deferred holders;
* `Workspace.generateEach`: the same for given ids, without a look at consistency.
-/

namespace KotlinPreferences

/-- The sink and the diagnostics that passes share. -/
structure Workspace where
  sink : Sink := {}
  diagnostics : List Diagnostic := []

namespace Workspace

/-- The workspace with the file of a draft. -/
def commit (w : Workspace) (draft : Draft) : Workspace × Except Failure Unit :=
  let (sink, result) :=
    w.sink.put ⟨false, draft.sources⟩ draft.package draft.name Vocabulary.fileExtension
      draft.content
  ({ w with sink := sink }, result)

/-- The workspace after a report on a declaration. -/
def absorb (w : Workspace) (report : Report (Option Draft)) : Workspace × Except Failure Unit :=
  let w := { w with diagnostics := w.diagnostics ++ report.diagnostics }
  match report.result with
  | .error failure => (w, .error failure)
  | .ok none => (w, .ok ())
  | .ok (some draft) => w.commit draft

/-- The workspace after a declaration was generated. -/
def generate (w : Workspace) (g : SymbolGraph) (options : Options) (d : Declaration) :
    Workspace × Except Failure Unit :=
  w.absorb (Holder.draft g options d)

/-- The workspace after some holders were looked at, with the deferred ones among them. -/
def processAll (g : SymbolGraph) (options : Options) :
    List TypeDecl → Workspace → Workspace × Except Failure (List TypeDecl)
  | [], w => (w, .ok [])
  | holder :: rest, w =>
    match g.isConsistent holder.id with
    | .error failure => (w, .error failure)
    | .ok false =>
      let (w, deferred) := processAll g options rest w
      (w, deferred.map (holder :: ·))
    | .ok true =>
      match w.generate g options (.typeDecl holder) with
      | (w, .error failure) => (w, .error failure)
      | (w, .ok ()) => processAll g options rest w

/-- The workspace after a pass over a graph, with the deferred holders. -/
def process (w : Workspace) (g : SymbolGraph) (options : Options) :
    Workspace × Except Failure (List TypeDecl) :=
  processAll g options g.holders w

/-- The workspace after the declarations of some ids were generated. -/
def generateEach (g : SymbolGraph) (options : Except Failure Options) :
    List Value → Workspace → Workspace × Except Failure Unit
  | [], w => (w, .ok ())
  | id :: rest, w =>
    match options with
    | .error failure => (w, .error failure)
    | .ok found =>
      match g.declarationOf id with
      | .error failure => (w, .error failure)
      | .ok d =>
        match w.generate g found d with
        | (w, .error failure) => (w, .error failure)
        | (w, .ok ()) => generateEach g options rest w

end Workspace

end KotlinPreferences
