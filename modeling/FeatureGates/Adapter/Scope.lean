import FeatureGates.Adapter.Basic

/-!
# Scopes of memoizing

Within a scope the cache of an adapter is active. Leaving a scope puts the
cache back to what it was on entering: the outermost scope leaves it off
and empty, an inner one leaves it as it is.
-/

namespace FeatureGates

/-- An open scope: the cache it is about, if the adapter has one, and
whether that was active before. -/
structure Scope where
  cache : Option String
  wasActive : Bool

namespace Scope

def enter (adapter : Adapter) : Run Scope := do
  match adapter.cache? with
  | some cache =>
    let wasActive := ((← get).cache cache).active
    Run.modifyCache cache (·.setActive true)
    return ⟨some cache, wasActive⟩
  | none => return ⟨none, false⟩

def leave (scope : Scope) : Run Unit :=
  match scope.cache with
  | some cache => Run.modifyCache cache (·.setActive scope.wasActive)
  | none => pure ()

/-- Runs something in a scope of its own, which is left also after a failure. -/
def within {α : Type} (adapter : Adapter) (run : Run α) : Run α := do
  let scope ← enter adapter
  match ← Run.outcome run with
  | .ok value =>
    scope.leave
    return value
  | .error failure =>
    scope.leave
    throw failure

end Scope

end FeatureGates
