import FeatureGates.Instrumentation.Observe

/-!
# Adapters

An adapter is what flags are kept behind: a store in memory, or a wrapper
around other adapters that watches, refuses, caches, limits or repeats what
goes through it. Adapters are trees; two of them may lead to one store.
-/

namespace FeatureGates

/-- What to do about a read of a feature that does not exist. -/
inductive MissingFeature where
  | refuse
  | warn
  | ignore
  | call (callback : String → Check Unit)

inductive Adapter where
  | memory (store name : String)
  | passThrough (inner : Adapter)
  | readOnly (inner : Adapter)
  | strict (missing : MissingFeature) (inner : Adapter)
  | memoizing (cache : String) (inner : Adapter)
  | actorLimit (limit : Int) (inner : Adapter)
  | instrumented (instrumenter : Instrumenter) (inner : Adapter)
  /-- Failures of the given categories give a safe answer instead. -/
  | failsafe (caught : List Category) (inner : Adapter)
  /-- Reads go to the second adapter after a failure of one of the given
  categories; writes go to the first, and to the second too if asked for. -/
  | failover (writesBoth : Bool) (caught : List Category) (primary secondary : Adapter)
  /-- Writes go to the remote adapter and then to the home one, which is read. -/
  | dualWrite (home remote : Adapter)

namespace Adapter

def defaultActorLimit : Int := 100

/-- A wrapper has the name of what it wraps. -/
def name : Adapter → String
  | .memory _ name => name
  | .passThrough inner => name inner
  | .readOnly inner => name inner
  | .strict _ inner => name inner
  | .memoizing _ inner => name inner
  | .actorLimit _ inner => name inner
  | .instrumented _ inner => name inner
  | .failsafe _ inner => name inner
  | .failover _ _ primary _ => name primary
  | .dualWrite home _ => name home

def isReadOnly : Adapter → Bool
  | .memory _ _ => false
  | .passThrough inner => isReadOnly inner
  | .readOnly _ => true
  | .strict _ inner => isReadOnly inner
  | .memoizing _ inner => isReadOnly inner
  | .actorLimit _ inner => isReadOnly inner
  | .instrumented _ inner => isReadOnly inner
  | .failsafe _ inner => isReadOnly inner
  | .failover _ _ primary _ => isReadOnly primary
  | .dualWrite home _ => isReadOnly home

/-- The cache of the outermost memoizing wrapper, as far in as wrappers of one adapter go. -/
def cache? : Adapter → Option String
  | .memoizing cache _ => some cache
  | .passThrough inner => cache? inner
  | .readOnly inner => cache? inner
  | .strict _ inner => cache? inner
  | .actorLimit _ inner => cache? inner
  | .instrumented _ inner => cache? inner
  | .failsafe _ inner => cache? inner
  | _ => none

/-- A failure is of one of the categories that someone catches. -/
def catches (caught : List Category) (failure : Failure) : Bool :=
  caught.any failure.category.isA

/-- The fields with which a failsafe wrapper tells that it stepped in. -/
def failsafeReport (operation name : String) (failure : Failure)
    (details : List (String × Value)) : List (String × Value) :=
  [("operation", .text operation), ("adapter_name", .text name),
    ("error", .text failure.message)] ++ details

/-- Runs an operation; a caught failure is logged and gives the safe answer. -/
def safely {α : Type} (caught : List Category) (operation name : String)
    (details : List (String × Value)) (safe : α) (run : Run α) : Run α :=
  tryCatch run fun failure => do
    if catches caught failure then
      Run.warn "adapter operation failed, using safe default"
        (failsafeReport operation name failure details)
      return safe
    else throw failure

/-- The fields that an instrumented wrapper starts its payload with. -/
def payloadOf (operation name : String) (details : List (String × Value)) :
    List (String × Value) :=
  [("operation", .text operation), ("adapter_name", .text name)] ++ details

/-- Runs an operation under observation, with its answer in the payload. -/
def watched {α : Type} (instrumenter : Instrumenter) (operation name : String)
    (details : List (String × Value)) (shown : α → Value) (run : Run α) : Run α :=
  instrumenter.observe Event.adapterOperation (payloadOf operation name details) shown do
    let answer ← Observed.ofRun run
    Observed.note "result" (shown answer)
    return answer

end Adapter

end FeatureGates
