import KotlinPreferences.Diagnostic
import KotlinPreferences.Failure

/-!
# Reports

A computation that may fail and that reports diagnostics on its way. Those reported before a
failure stay.

* `Report`, with its monad operations.
-/

namespace KotlinPreferences

/-- The diagnostics reported on the way to a result. -/
structure Report (α : Type) where
  diagnostics : List Diagnostic
  result : Except Failure α

namespace Report

/-- A failure, with nothing reported. -/
def fail {α : Type} (failure : Failure) : Report α := ⟨[], .error failure⟩

/-- A result or failure, with nothing reported. -/
def ofResult {α : Type} (result : Except Failure α) : Report α := ⟨[], result⟩

/-- One diagnostic. -/
def tell (d : Diagnostic) : Report Unit := ⟨[d], .ok ()⟩

instance : Monad Report where
  pure a := ⟨[], .ok a⟩
  bind r f :=
    match r.result with
    | .error failure => ⟨r.diagnostics, .error failure⟩
    | .ok a => ⟨r.diagnostics ++ (f a).diagnostics, (f a).result⟩

@[simp] theorem pure_def {α : Type} (a : α) : (pure a : Report α) = ⟨[], .ok a⟩ := rfl

theorem bind_def {α β : Type} (r : Report α) (f : α → Report β) :
    r >>= f =
      match r.result with
      | .error failure => ⟨r.diagnostics, .error failure⟩
      | .ok a => ⟨r.diagnostics ++ (f a).diagnostics, (f a).result⟩ := rfl

end Report

end KotlinPreferences
