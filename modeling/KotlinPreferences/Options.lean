import KotlinPreferences.Failure
import KotlinPreferences.Settings

/-!
# Options of a generation

The settings, overridden by the arguments of a call. Only the policy is checked; the other options
are texts by intention, but any value is taken.

* `Policy`: what becomes of a property that fails its validation;
* `Options`, `Options.ofArguments`.
-/

namespace KotlinPreferences

/-- What becomes of a property that fails its validation. -/
inductive Policy where
  /-- It is left out of the class. -/
  | omitted
  /-- It is generated all the same. -/
  | emitted
  /-- The whole class is left out. -/
  | aborted
  deriving DecidableEq

namespace Policy

/-- The name of a policy. -/
def name : Policy → Text
  | omitted => "omit"
  | emitted => "emit"
  | aborted => "abort"

/-- The policy of a name. -/
def ofName? (s : Text) : Option Policy :=
  if s = "omit" then some omitted
  else if s = "emit" then some emitted
  else if s = "abort" then some aborted
  else none

/-- The policy that a value names. -/
def ofValue : Value → Except Failure Policy
  | .str s => orFail (ofName? s) (.unsupportedPolicy (.str s))
  | v => .error (.unsupportedPolicy v)

@[simp] theorem ofName?_name (policy : Policy) : ofName? policy.name = some policy := by
  cases policy <;> simp [ofName?, name]

end Policy

/-- The options of a generation. -/
structure Options where
  package : Value
  storeType : Value
  storeParam : Value
  policy : Policy
  escapeLiterals : Value

namespace Options

/-- The names under which options are given. -/
def names : List Text :=
  ["package_name", "store_type", "store_param", "invalid_property_policy", "escape_literals"]

/-- The options that the arguments of a call give; the settings stand in for missing ones. -/
def ofArguments (settings : Settings) (arguments : Value.Members) : Except Failure Options :=
  match arguments.find? fun argument => !names.contains argument.1 with
  | some argument => .error (.unknownOption argument.1)
  | none => do
    let given (name : Text) (fallback : Value) := (Value.member? arguments name).getD fallback
    let policy ← Policy.ofValue (given "invalid_property_policy" (.str settings.policy))
    pure
      { package := given "package_name" (.str settings.preferencesPackage)
        storeType := given "store_type" (.str settings.storeType)
        storeParam := given "store_param" (.str Vocabulary.defaultStoreParam)
        policy := policy
        escapeLiterals := given "escape_literals" (.bool settings.escapeLiterals) }

end Options

end KotlinPreferences
