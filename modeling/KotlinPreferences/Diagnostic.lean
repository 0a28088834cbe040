import KotlinPreferences.Value

/-!
# Diagnostics

What is reported to the user while classes are generated.

* `Severity`, `Diagnostic`;
* `Diagnostic.warnings`, `Diagnostic.errors`: the texts of one severity, in order.
-/

namespace KotlinPreferences

/-- How grave a diagnostic is. -/
inductive Severity where
  | warning
  | error
  deriving DecidableEq

/-- The name of a severity. -/
def Severity.name : Severity → Text
  | warning => "warning"
  | error => "error"

/-- A message to the user, about the declaration named by `symbol` if there is one. -/
structure Diagnostic where
  severity : Severity
  message : Text
  symbol : Value

namespace Diagnostic

/-- The texts of one severity, in order. -/
def messages (severity : Severity) (ds : List Diagnostic) : List Text :=
  (ds.filter fun d => d.severity = severity).map Diagnostic.message

/-- The texts of the warnings. -/
def warnings (ds : List Diagnostic) : List Text := messages .warning ds

/-- The texts of the errors. -/
def errors (ds : List Diagnostic) : List Text := messages .error ds

theorem messages_append (severity : Severity) (ds es : List Diagnostic) :
    messages severity (ds ++ es) = messages severity ds ++ messages severity es := by
  simp [messages]

end Diagnostic

end KotlinPreferences
