import FeatureGates.FlagSet.Basic

/-!
# Settings

Which wrappers a flag set puts around its adapter, and how it logs. A limit
on actors, if there is one, is at least one.
-/

namespace FeatureGates

/-- What settings say about reads of features that do not exist. -/
inductive Strictness where
  | refuse
  | warn
  | ignore
  | flag (on : Bool)
deriving DecidableEq

/-- The reaction of a strict adapter, if there is to be one. -/
def Strictness.missing? : Strictness → Option MissingFeature
  | .refuse => some .refuse
  | .warn => some .warn
  | .ignore => none
  | .flag on => if on then some .refuse else none

structure StackSettings where
  strict : Strictness
  readOnly : Bool
  actorLimit : Option Int
  memoize : Bool
  instrument : Bool
  one_le_actorLimit : ∀ limit ∈ actorLimit, 1 ≤ limit

/-- Without a limit on actors nothing is asked of it. -/
theorem StackSettings.one_le_of_none : ∀ limit ∈ (none : Option Int), 1 ≤ limit := nofun

inductive LogFormat where
  | json
  | text
deriving DecidableEq

def LogFormat.name : LogFormat → String
  | .json => "json"
  | .text => "text"

structure LogSettings where
  level : String
  format : LogFormat

structure Settings where
  stack : StackSettings
  log : LogSettings

/-! ## Building the stack -/

namespace StackSettings

/-- Puts a wrapper around an adapter if there is one to put. -/
def around {α : Type} (wrap : α → Adapter → Adapter) (choice : Option α) (inner : Adapter) :
    Adapter :=
  match choice with
  | some x => wrap x inner
  | none => inner

/-- The adapter in its wrappers: from the inside the actor limit, strict,
read only, memoizing and instrumented, each if the settings ask for it. -/
def build (settings : StackSettings) (cache : String) (instrumenter : Instrumenter)
    (store : Adapter) : Adapter :=
  let limited := around Adapter.actorLimit settings.actorLimit store
  let strict := around Adapter.strict settings.strict.missing? limited
  let readOnly := if settings.readOnly then Adapter.readOnly strict else strict
  let memoizing := if settings.memoize then Adapter.memoizing cache readOnly else readOnly
  if settings.instrument then Adapter.instrumented instrumenter memoizing else memoizing

end StackSettings

/-- The flag set that settings ask for; what it does is logged if it is to be instrumented. -/
def Settings.flagSet (settings : Settings) (cache : String) (store : Adapter)
    (registry : Registry) (meaning : Meaning) : FlagSet where
  adapter := settings.stack.build cache .logging store
  instrumenter := if settings.stack.instrument then .logging else .none
  registry := registry
  meaning := meaning

end FeatureGates
