import KotlinPreferences.Holder.Report
import KotlinPreferences.Kotlin.HolderClass
import KotlinPreferences.Options
import KotlinPreferences.Preference

/-!
# Generating holders

A holder that is an interface becomes a class with a variable for each of its preferences; other
holders are reported and left out. A preference that fails its validation is reported, and the
policy says what becomes of it. None of this depends on what was generated before.

* `Draft`: a file as it is to be created;
* `Holder.step`: what one property contributes;
* `Holder.accessors`: what all properties contribute;
* `Holder.draft`: the file of a holder.
-/

namespace KotlinPreferences

/-- A file as it is to be created. -/
structure Draft where
  package : Text
  name : Text
  content : Text
  sources : List Value

namespace Holder

/-- What a property contributes to the class of its holder. -/
inductive Step where
  /-- Nothing. -/
  | skip
  /-- A variable. -/
  | accessor (text : Text)
  /-- The end of the whole class. -/
  | stop

/-- The variable of a preference. -/
def accessor (g : SymbolGraph) (options : Options) (p : Preference) : Except Failure Text := do
  let arguments ← p.arguments g
  let declaredType ← p.typeName
  let converter ← orFail arguments.converter.qualifiedName? .wrongShape
  let a : Kotlin.Accessor :=
    { name := p.name
      declaredType := declaredType
      key := arguments.key
      default := arguments.default
      converter := converter.text
      storeParam := options.storeParam.text }
  orFail (a.render? options.escapeLiterals.truthy) .wrongShape

/-- The variable of a preference as a contribution. -/
def variableStep (g : SymbolGraph) (options : Options) (p : Preference) : Report Step := do
  let text ← Report.ofResult (accessor g options p)
  pure (.accessor text)

/-- What a preference contributes after it failed its validation. -/
def invalidStep (g : SymbolGraph) (options : Options) (p : Preference) (error : Text) :
    Report Step := do
  let symbol ← Report.ofResult p.qualifiedName
  Report.tell ⟨.error, error, .str symbol⟩
  match options.policy with
  | .aborted => pure .stop
  | .omitted => pure .skip
  | .emitted => variableStep g options p

/-- What a preference contributes. -/
def preferenceStep (g : SymbolGraph) (options : Options) (p : Preference) : Report Step := do
  let verdict ← Report.ofResult (p.validate g)
  match verdict.error? with
  | none => variableStep g options p
  | some error => invalidStep g options p error

/-- What a property contributes. -/
def step (g : SymbolGraph) (options : Options) (holder : TypeDecl) (property : Declaration) :
    Report Step := do
  match ← Report.ofResult (Preference.of? (.typeDecl holder) property) with
  | none => pure .skip
  | some p => preferenceStep g options p

/-- The variables of the class, unless a property ends it. -/
def accessors (g : SymbolGraph) (options : Options) (holder : TypeDecl) :
    List Declaration → Report (Option (List Text))
  | [] => pure (some [])
  | property :: rest => do
    match ← step g options holder property with
    | .skip => accessors g options holder rest
    | .stop => pure none
    | .accessor text => do
      let further ← accessors g options holder rest
      pure (further.map (text :: ·))

/-- The text of the class of a holder. -/
def content (options : Options) (holder : TypeDecl) (accessors : List Text) : Text :=
  let c : Kotlin.HolderClass :=
    { package := options.package.text
      name := holder.name
      storeParam := options.storeParam.text
      storeType := options.storeType.text }
  c.render accessors

/-- The package of the generated file, which has to be a text. -/
def filePackage : Value → Except Failure Text
  | .str package => .ok package
  | v => .error (if v.key?.isSome then .wrongShape else .unusableKey)

/-- The file of the class. -/
def fileDraft (options : Options) (holder : TypeDecl) (accessors : List Text) :
    Except Failure Draft := do
  let package ← filePackage options.package
  pure
    { package := package
      name := holder.name
      content := content options holder accessors
      sources := if holder.sourceFile.truthy then [holder.sourceFile] else [] }

/-- The warning about a holder that is no interface. -/
def notInterface (holder : TypeDecl) : Diagnostic :=
  ⟨.warning, "Defining preferences holder using a class/object is not supported. " ++
    "The class/object " ++ holder.name ++ " will therefore be ignored", holder.qualifiedName⟩

/-- The file of a holder that is an interface, unless one of its properties ends the class. -/
def interfaceDraft (g : SymbolGraph) (options : Options) (holder : TypeDecl) :
    Report (Option Draft) := do
  let properties ← Report.ofResult (g.properties holder.id)
  match ← accessors g options holder properties with
  | none => pure none
  | some texts => do
    let draft ← Report.ofResult (fileDraft options holder texts)
    pure (some draft)

/-- The file of a holder, if it has one. -/
def draft (g : SymbolGraph) (options : Options) : Declaration → Report (Option Draft)
  | .typeDecl holder =>
    if holder.kind = .interface then interfaceDraft g options holder
    else do
      Report.tell (notInterface holder)
      pure none
  | _ => Report.fail .wrongShape

end Holder

end KotlinPreferences
