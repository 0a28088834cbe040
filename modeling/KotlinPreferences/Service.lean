import KotlinPreferences.Document
import KotlinPreferences.Pass
import KotlinPreferences.Service.Request
import KotlinPreferences.SymbolGraph.DebugView

/-!
# Service

The three requests that the service answers: to generate the holders of a document, to validate
their preferences, and to show the graph of a document. A malformed document or option, and a file
that comes up twice, are answered as such; every other failure goes through to the caller.

* `Reply`: the answer to a request;
* `generate`, `validate`, `symbols`.
-/

namespace KotlinPreferences.Service

/-- The answer to a request. -/
inductive Reply (α : Type) where
  | ok (body : α)
  /-- The request is refused with a status and a text. -/
  | refused (status : Nat) (detail : Text)
  /-- The request itself has faults. -/
  | unprocessable (faults : List RequestFault)

/-- Answers a failure of one family with a refusal, which gives the text of the failure behind some
words. -/
def refusing {α : Type} (family : Failure.Family) (status : Nat) (words : Text)
    (failure : Failure) : Except Failure (Reply α) :=
  if failure.family = family then .ok (.refused status (words ++ failure.message?.getD ""))
  else .error failure

/-- Answers from the graph of a document; a malformed document is refused. -/
def withGraph {α : Type} (document : Value) (answer : SymbolGraph → Except Failure (Reply α)) :
    Except Failure (Reply α) :=
  match Document.read document with
  | .error failure => refusing .badValue 400 "Invalid CIR: " failure
  | .ok g => answer g

/-- A text in an answer, which has to be a Unicode text. -/
def textFits (s : Text) : Except Failure Text :=
  if s.isUnicode then .ok s else .error .unusableResponse

/-- A name in an answer, which has to be a text. -/
def nameText : Value → Except Failure Text
  | .str s => textFits s
  | _ => .error .unusableResponse

/-- The symbol of a diagnostic in an answer, which has to be a text or none. -/
def symbolFits (d : Diagnostic) : Except Failure Unit :=
  match d.symbol with
  | .null => .ok ()
  | v => (nameText v).map fun _ => ()

/-- A diagnostic in an answer. -/
def diagnosticFits (d : Diagnostic) : Except Failure Unit := do
  let _ ← textFits d.message
  symbolFits d

/-- A file in an answer. -/
def fileFits (f : GeneratedFile) : Except Failure Unit :=
  [f.package, f.name, f.path, f.content].forM fun s => (textFits s).map fun _ => ()

/-- The names of deferred holders. -/
def deferredNames (deferred : List TypeDecl) : Except Failure (List Text) :=
  deferred.mapM fun d => nameText d.qualifiedName

/-! ### Generating -/

/-- The answer to a request to generate. -/
structure GenerateBody where
  files : List GeneratedFile
  diagnostics : List Diagnostic
  deferred : List Text
  /-- The files on the disk, where the request asks for them. -/
  disk : Option (List (Text × Text))

/-- The arguments that a request gives for the options. -/
def optionArguments (r : GenerateRequest) : Value.Members :=
  let policy (s : Text) := Text.ofList (Text.trim (Text.lower s).toList)
  (match r.policy with
    | some s => [("invalid_property_policy", Value.str (policy s))]
    | none => []) ++
  (match r.escapeLiterals with
    | some b => [("escape_literals", Value.bool b)]
    | none => [])

/-- The workspace in which a request is answered. Files are written below the output folder of the
settings, if they are written at all. -/
def freshWorkspace (settings : Settings) (r : GenerateRequest) : Workspace :=
  { sink := { disk := if r.writeToDisk then some { root := settings.outputFolder } else none } }

/-- The body of an answer, from the workspace after the pass and the deferred holders. -/
def generateBody (w : Workspace) (deferred : List TypeDecl) : Except Failure GenerateBody := do
  w.sink.files.forM fileFits
  w.diagnostics.forM diagnosticFits
  let names ← deferredNames deferred
  pure
    { files := w.sink.files
      diagnostics := w.diagnostics
      deferred := names
      disk := w.sink.disk.map Disk.listing }

/-- Generates the holders of a graph. -/
def generateFrom (settings : Settings) (r : GenerateRequest) (g : SymbolGraph) :
    Except Failure (Reply GenerateBody) :=
  match Options.ofArguments settings (optionArguments r) with
  | .error failure => refusing .badValue 400 "" failure
  | .ok options =>
    match (freshWorkspace settings r).process g options with
    | (_, .error failure) => refusing .existingFile 409 "Generated file already exists: " failure
    | (w, .ok deferred) => (generateBody w deferred).map .ok

/-- Generates the holders of a document. -/
def generate (settings : Settings) (body : Value) : Except Failure (Reply GenerateBody) :=
  match GenerateRequest.read body with
  | .error faults => .ok (.unprocessable faults)
  | .ok r => withGraph r.document (generateFrom settings r)

/-! ### Validating -/

/-- What is found about one preference. -/
structure PropertyVerdict where
  holder : Text
  property : Text
  /-- What is wrong; nothing is where the preference is valid. -/
  error : Option Text

/-- The answer to a request to validate. -/
structure ValidateBody where
  results : List PropertyVerdict
  deferred : List Text

/-- What is found about one property, unless it is no preference. -/
def verdictOn (g : SymbolGraph) (holder : TypeDecl) (property : Declaration) :
    Except Failure (Option PropertyVerdict) := do
  match ← Preference.of? (.typeDecl holder) property with
  | none => pure none
  | some p =>
    let verdict ← p.validate g
    let name ← nameText holder.qualifiedName
    let property ← textFits p.name
    let error ← verdict.error?.mapM textFits
    pure (some ⟨name, property, error⟩)

/-- What is found about the properties of one holder. -/
def verdictsOn (g : SymbolGraph) (holder : TypeDecl) : Except Failure (List PropertyVerdict) := do
  let properties ← g.properties holder.id
  let verdicts ← properties.mapM (verdictOn g holder)
  pure (verdicts.filterMap id)

/-- What is found about some holders, and the deferred ones among them. -/
def validateAll (g : SymbolGraph) :
    List TypeDecl → Except Failure (List PropertyVerdict × List TypeDecl)
  | [] => pure ([], [])
  | holder :: rest => do
    if ← g.isConsistent holder.id then
      let found ← if holder.kind = .interface then verdictsOn g holder else pure []
      let (verdicts, deferred) ← validateAll g rest
      pure (found ++ verdicts, deferred)
    else
      let (verdicts, deferred) ← validateAll g rest
      pure (verdicts, holder :: deferred)

/-- The body of an answer about a graph. -/
def validateBody (g : SymbolGraph) : Except Failure ValidateBody := do
  let (results, deferred) ← validateAll g g.holders
  let names ← deferredNames deferred
  pure ⟨results, names⟩

/-- Validates the preferences of the holders of a document. -/
def validate (body : Value) : Except Failure (Reply ValidateBody) :=
  match documentOf body with
  | .error faults => .ok (.unprocessable faults)
  | .ok document => withGraph document fun g => (validateBody g).map .ok

/-! ### Showing the graph -/

/-- Shows the graph of a document. -/
def symbols (body : Value) : Except Failure (Reply Value) :=
  match documentOf body with
  | .error faults => .ok (.unprocessable faults)
  | .ok document => withGraph document fun g => g.toValue.map .ok

end KotlinPreferences.Service
