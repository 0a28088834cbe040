import KotlinPreferences.SymbolGraph
import KotlinPreferences.Preference

/-!
# Consistent holders

A holder is consistent when everything that generation reads from it resolves: its property types
are named, and every preference has texts for key and default and a converter that is known.

* `SymbolGraph.resolves`, `SymbolGraph.isConsistent`.
-/

namespace KotlinPreferences.SymbolGraph

/-- Whether the converter that a value names is known. -/
def knowsConverter (g : SymbolGraph) : Value → Bool
  | .str name => (g.typeNamed? (.str name)).isSome
  | _ => false

/-- Whether everything that a preference annotation gives resolves. -/
def resolvesEntry (g : SymbolGraph) (entry : AnnotationEntry) : Bool :=
  (Value.member entry.arguments "key").isText &&
    (Value.member entry.arguments "default").isText && g.knowsConverter (Preference.converterName entry)

/-- Whether everything that generation reads from a property resolves. -/
def resolves (g : SymbolGraph) (property : Declaration) : Except Failure Bool := do
  let type ← orFail property.type? .wrongShape
  if type.name = "" then pure false
  else
    let entries ← orFail property.annotations? .wrongShape
    match entryOf? entries Vocabulary.preferenceMarker with
    | none => pure true
    | some entry => pure (g.resolvesEntry entry)

/-- Whether everything that generation reads from a holder resolves. -/
def isConsistent (g : SymbolGraph) (holder : Text) : Except Failure Bool := do
  let properties ← g.properties holder
  properties.allM g.resolves

/-- The types marked as preferences holders. -/
def holders (g : SymbolGraph) : List TypeDecl := g.annotated Vocabulary.preferencesMarker

end KotlinPreferences.SymbolGraph
