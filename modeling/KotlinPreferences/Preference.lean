import KotlinPreferences.SymbolGraph.Supertypes

/-!
# Preferences

A property with the preference annotation, seen as a preference of its holder. The annotation gives
the key, the default and the converter; a missing converter is the one that leaves texts as they
are. A preference is valid when its converter can be constructed without arguments and reads texts
as values of the declared type.

* `Preference`, `Preference.of?`;
* `Preference.arguments`: what the annotation gives, with the converter resolved;
* `Verdict`, `Preference.validate`.
-/

namespace KotlinPreferences

/-- A property that carries the preference annotation. -/
structure Preference where
  holder : Declaration
  property : Declaration
  entry : AnnotationEntry

namespace Preference

/-- The property as a preference, if it carries the annotation. -/
def of? (holder property : Declaration) : Except Failure (Option Preference) := do
  let entries ← orFail property.annotations? .wrongShape
  pure ((entryOf? entries Vocabulary.preferenceMarker).map fun entry =>
    ⟨holder, property, entry⟩)

/-- The name of the property. -/
def name (p : Preference) : Text := p.property.name

/-- The name of the property behind the qualified name of the holder. -/
def qualifiedName (p : Preference) : Except Failure Text := do
  let owner ← orFail p.holder.qualifiedName? .wrongShape
  pure (owner.text ++ "." ++ p.name)

/-- The declared type of the property. -/
def type (p : Preference) : Except Failure TypeRef := orFail p.property.type? .wrongShape

/-- The text of the declared type. -/
def typeName (p : Preference) : Except Failure Text := TypeRef.render <$> p.type

/-! ### Arguments -/

/-- What the annotation gives, with the converter resolved. -/
structure Arguments where
  key : Value
  default : Value
  converter : Declaration

/-- The converter that the annotation names; without one, the converter of texts. -/
def converterName (entry : AnnotationEntry) : Value :=
  let given := Value.member entry.arguments "converter"
  if given.truthy then given else .str Vocabulary.stringConverter

/-- The declaration of the converter. -/
def converter (g : SymbolGraph) (p : Preference) : Except Failure Declaration := do
  match ← g.typeOf (converterName p.entry) with
  | some d => pure d
  | none =>
    let qualifiedName ← p.qualifiedName
    throw (.unresolvedConverter (converterName p.entry) qualifiedName)

/-- What the annotation gives. -/
def arguments (g : SymbolGraph) (p : Preference) : Except Failure Arguments := do
  let converter ← p.converter g
  let key ← orFail (Value.member? p.entry.arguments "key") (.absentArgument "key")
  let default ← orFail (Value.member? p.entry.arguments "default") (.absentArgument "default")
  pure ⟨key, default, converter⟩

end Preference

/-! ### Validation -/

/-- What is found about a preference. -/
inductive Verdict where
  | valid
  /-- The converter cannot be constructed without arguments. -/
  | noConstructor (converter : Value)
  /-- The converter reads texts as values of another type. -/
  | typeMismatch (preference : Text)

/-- The text of a fault. -/
def Verdict.error? : Verdict → Option Text
  | valid => none
  | noConstructor converter => some (converter.text ++ " does not have a no-arg constructor")
  | typeMismatch preference =>
    some ("Preference property's type and converter do not match on property " ++ preference)

namespace SymbolGraph

/-- Whether a converter can be constructed without arguments. Only a class has a constructor where
none is declared. -/
def isConstructible (g : SymbolGraph) (d : Declaration) : Except Failure Bool := do
  let cs ← g.constructors d.id
  if cs.isEmpty then
    let kind ← orFail d.typeKind? .wrongShape
    pure (kind == .classType)
  else
    cs.anyM fun c => do
      let ps ← g.parameters c.id
      pure ps.isEmpty

/-- The type of the values that a converter reads from texts. -/
def valueType (g : SymbolGraph) (d : Declaration) : Except Failure TypeRef := do
  let parse ← g.functionNamed d "parse"
  match parse.returnType with
  | some type => pure type
  | none =>
    let qualifiedName ← orFail d.qualifiedName? .wrongShape
    throw (.absentReturnType qualifiedName)

end SymbolGraph

/-- What is found about a preference. -/
def Preference.validate (g : SymbolGraph) (p : Preference) : Except Failure Verdict := do
  let arguments ← p.arguments g
  if ← g.isConstructible arguments.converter then
    let expected ← p.type
    let given ← g.valueType arguments.converter
    if ← g.isAssignable expected given then pure .valid
    else
      let qualifiedName ← p.qualifiedName
      pure (.typeMismatch qualifiedName)
  else
    let qualifiedName ← orFail arguments.converter.qualifiedName? .wrongShape
    pure (.noConstructor qualifiedName)

end KotlinPreferences
