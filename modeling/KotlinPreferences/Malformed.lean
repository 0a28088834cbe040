import KotlinPreferences.Kinds
import KotlinPreferences.Value.Display

/-!
# Malformed documents

What can be wrong with a document or a type reference, and the text that says so.

* `Malformed`, `Malformed.message`.
-/

namespace KotlinPreferences

/-- What is wrong with a document or a type reference. -/
inductive Malformed where
  /-- A type text with brackets or commas out of place. -/
  | typeText (text : Text)
  /-- The brackets between the outermost two do not match. -/
  | unbalancedArguments (inner : Text)
  /-- One of the type arguments is blank. -/
  | emptyArgument (inner : Text)
  | unnamedTypeRef (ref : Value)
  | typeArgumentsNotList (ref : Value)
  | notTypeRef (ref : Value)
  | annotationsNotList
  | annotationWithoutType (entry : Value)
  | annotationArgumentsNotObject (entry : Value)
  | namelessNode (id : Text)
  | declarationKind (id : Text) (kind : Text)
  | notDocument
  | partsNotLists
  | notNode (node : Value)
  | nodeWithoutId (node : Value)
  | duplicateId (id : Text)
  | nodeKind (id : Text) (kind : Value)
  | notEdge (edge : Value)
  | edgeType (label : Value)
  | unknownEnd (kind : EdgeKind) (source target : Value)
  | wrongEnds (kind : EdgeKind) (expected : NodeKind × NodeKind) (source target : Value)

/-- The text of a malformation. -/
def Malformed.message : Malformed → Text
  | typeText text => "Malformed type reference: " ++ Quoted.ofText text
  | unbalancedArguments inner => "Unbalanced type arguments: " ++ Quoted.ofText inner
  | emptyArgument inner => "Empty type argument in: " ++ Quoted.ofText inner
  | unnamedTypeRef ref => "Type reference without a name: " ++ ref.quoted
  | typeArgumentsNotList ref => "Type arguments must be a list: " ++ ref.quoted
  | notTypeRef ref => "Unsupported type reference: " ++ ref.quoted
  | annotationsNotList => "annotations must be a list"
  | annotationWithoutType entry => "Annotation without a type: " ++ entry.quoted
  | annotationArgumentsNotObject entry =>
    "Annotation arguments must be an object: " ++ entry.quoted
  | namelessNode id => "Node " ++ id ++ " has no name"
  | declarationKind id kind => "Unsupported declaration kind for " ++ id ++ ": " ++ kind
  | notDocument => "CIR must be an object with 'nodes' and 'edges'"
  | partsNotLists => "CIR 'nodes' and 'edges' must be lists"
  | notNode node => "Malformed CIR node: " ++ node.quoted
  | nodeWithoutId node => "CIR node without an id: " ++ node.quoted
  | duplicateId id => "Duplicate CIR node id: " ++ id
  | nodeKind id kind => "Unsupported CIR node kind for " ++ id ++ ": " ++ kind.text
  | notEdge edge => "Malformed CIR edge: " ++ edge.quoted
  | edgeType label => "Unsupported CIR edge type: " ++ label.text
  | unknownEnd kind source target =>
    kind.name ++ " edge references an unknown node: " ++ source.text ++ " -> " ++ target.text
  | wrongEnds kind expected source target =>
    kind.name ++ " edge must connect " ++ expected.1.name ++ " -> " ++ expected.2.name ++ ": " ++
      source.text ++ " -> " ++ target.text

end KotlinPreferences
