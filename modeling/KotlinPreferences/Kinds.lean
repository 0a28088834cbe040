import KotlinPreferences.Text

/-!
# Kinds of nodes and edges

A symbol graph has four kinds of nodes. An edge has one of five known kinds, which fix the kinds of
its two ends; an edge added by hand may carry any other label.

* `NodeKind`, `EdgeKind`, with their names in a document;
* `EdgeKind.ends?`: the kinds of nodes that an edge of a known kind joins;
* `EdgeKind.ofName?_name`, `NodeKind.ofName?_name`: names are read back.
-/

namespace KotlinPreferences

/-- The kinds of nodes. -/
inductive NodeKind where
  | typeDecl
  | property
  | function
  | parameter
  deriving DecidableEq

namespace NodeKind

/-- The name of a kind in a document. -/
def name : NodeKind → Text
  | typeDecl => "TypeDecl"
  | property => "Property"
  | function => "Function"
  | parameter => "Parameter"

/-- The kind of a name. -/
def ofName? (s : Text) : Option NodeKind :=
  if s = "TypeDecl" then some typeDecl
  else if s = "Property" then some property
  else if s = "Function" then some function
  else if s = "Parameter" then some parameter
  else none

@[simp] theorem ofName?_name (kind : NodeKind) : ofName? kind.name = some kind := by
  cases kind <;> simp [ofName?, name]

theorem name_of_ofName? {s : Text} {kind : NodeKind} (h : ofName? s = some kind) :
    kind.name = s := by
  unfold ofName? at h
  split at h
  · cases h; simp [name, *]
  · split at h
    · cases h; simp [name, *]
    · split at h
      · cases h; simp [name, *]
      · split at h
        · cases h; simp [name, *]
        · cases h

end NodeKind

/-- The kinds of edges. A parameter edge leads from the parameter to its function. -/
inductive EdgeKind where
  | hasProperty
  | hasFunction
  | paramOf
  | inherits
  | implements
  | other (label : Text)
  deriving DecidableEq

namespace EdgeKind

/-- The name of a kind in a document. -/
def name : EdgeKind → Text
  | hasProperty => "HAS_PROPERTY"
  | hasFunction => "HAS_FUNCTION"
  | paramOf => "PARAM_OF"
  | inherits => "INHERITS"
  | implements => "IMPLEMENTS"
  | other label => label

/-- The known kind of a name. -/
def ofName? (s : Text) : Option EdgeKind :=
  if s = "HAS_PROPERTY" then some hasProperty
  else if s = "HAS_FUNCTION" then some hasFunction
  else if s = "PARAM_OF" then some paramOf
  else if s = "INHERITS" then some inherits
  else if s = "IMPLEMENTS" then some implements
  else none

/-- The kind of any label. -/
def ofLabel (s : Text) : EdgeKind := (ofName? s).getD (other s)

/-- The kinds of nodes that an edge of a known kind joins, source first. -/
def ends? : EdgeKind → Option (NodeKind × NodeKind)
  | hasProperty => some (.typeDecl, .property)
  | hasFunction => some (.typeDecl, .function)
  | paramOf => some (.parameter, .function)
  | inherits => some (.typeDecl, .typeDecl)
  | implements => some (.typeDecl, .typeDecl)
  | other _ => none

/-- An edge from a type to one of its direct supertypes. -/
def isSupertype : EdgeKind → Bool
  | inherits => true
  | implements => true
  | _ => false

theorem name_of_ofName? {s : Text} {kind : EdgeKind} (h : ofName? s = some kind) :
    kind.name = s := by
  unfold ofName? at h
  split at h
  · cases h; simp [name, *]
  · split at h
    · cases h; simp [name, *]
    · split at h
      · cases h; simp [name, *]
      · split at h
        · cases h; simp [name, *]
        · split at h
          · cases h; simp [name, *]
          · cases h

@[simp] theorem name_ofLabel (s : Text) : (ofLabel s).name = s := by
  unfold ofLabel
  cases h : ofName? s with
  | none => rfl
  | some kind => exact name_of_ofName? h

end EdgeKind

end KotlinPreferences
