import FeatureGates.Adapter.Basic

/-!
# Reading through adapters

`Adapter.read` answers the four reads. Most wrappers treat them alike; a
strict one asks first whether the features exist, and a memoizing one
answers from its cache while that is active.
-/

namespace FeatureGates

variable {α : Type}

namespace MissingFeature

/-- Reacts to a feature that does not exist. -/
def react (missing : MissingFeature) (feature : String) : Run Unit :=
  match missing with
  | .refuse => throw (.featureNotFound feature)
  | .warn =>
    Run.warn (Failure.featureNotFound feature).message [("feature_name", .text feature)]
  | .ignore => pure ()
  | .call callback => Run.ofCheck (callback feature)

/-- Reacts if a feature is not among the existing ones. -/
def check (missing : MissingFeature) (existing : Run NameSet) (feature : String) : Run Unit := do
  if (← existing).contains feature then return
  missing.react feature

end MissingFeature

namespace Cache

/-! ## Reading through a cache -/

/-- What is known, or what a load gives, which is then kept. -/
def consult (cache : String) (load : Option String) (known : Cache → Option α)
    (keep : Cache → α → Cache) (run : Run α) : Run α := do
  let now := (← get).cache cache
  match known now with
  | some value => return value
  | none =>
    match now.failed.lookup load with
    | some failure => throw failure
    | none =>
      tryCatch (do
        let value ← run
        Run.modifyCache cache (keep · value)
        return value) fun failure => do
        if (← get).overlapping then Run.modifyCache cache (·.noteFailed load failure)
        throw failure

def consultNames (cache : String) (run : Run NameSet) : Run NameSet :=
  consult cache none (·.names) putNames run

def consultValues (cache feature : String) (run : Run Entries) : Run Entries :=
  consult cache (some feature) (·.values.find? feature) (·.putValues feature) run

/-- Loads what is not known of some features in one read, then answers from the cache. -/
def consultMany (cache : String) (features : List String) (loadMany : List String → Run RawFeatures)
    (loadOne : String → Run Entries) : Run RawFeatures := do
  let missing := ((← get).cache cache).unknown features
  unless missing.isEmpty do
    let raw ← loadMany missing
    Run.modifyCache cache (·.putAllValues raw)
  let rows ← features.mapM fun feature => do
    return (feature, ← consultValues cache feature (loadOne feature))
  return .ofRows rows

/-- Everything, from the cache if it knows that it has everything. -/
def consultEverything (cache : String) (run : Run RawFeatures) : Run RawFeatures := do
  match ((← get).cache cache).everything? with
  | some raw => return raw
  | none =>
    let raw ← run
    Run.modifyCache cache (·.putEverything raw)
    return raw

/-- A read through an active cache. -/
def consultRead (cache : String) (inner : {β : Type} → Read β → Run β) : {α : Type} → Read α → Run α
  | _, .features => consultNames cache (inner .features)
  | _, .get feature => consultValues cache feature (inner (.get feature))
  | _, .getMulti features =>
    consultMany cache features (fun missing => inner (.getMulti missing))
      fun feature => inner (.get feature)
  | _, .getAll => consultEverything cache (inner .getAll)

/-- A read through a cache; one that is not active is passed by. -/
def read (cache : String) (inner : {β : Type} → Read β → Run β) (r : Read α) : Run α := do
  if ((← get).cache cache).active then consultRead cache inner r else inner r

end Cache

namespace Adapter

/-- A read that reaches a store. -/
def readStore (store : String) (r : Read α) : Run α := do
  Run.call store r.name r.subjects
  return (← Run.recordsOf store).read r

/-- Reads from the first of two; after a caught failure, from the second. -/
def readEither (caught : List Category) (operation primary secondary : String)
    (first second : Run α) : Run α :=
  tryCatch first fun failure => do
    if catches caught failure then
      Run.warn "primary adapter failed, reading from secondary"
        [("operation", .text operation), ("primary", .text primary),
          ("secondary", .text secondary), ("error", .text failure.message)]
      second
    else throw failure

/-- The answer to a read. -/
def read : Adapter → {α : Type} → Read α → Run α
  | .memory store _, _, r => readStore store r
  | .passThrough inner, _, r => read inner r
  | .readOnly inner, _, r => read inner r
  | .strict missing inner, _, r => do
    r.subjects.forM (missing.check (read inner .features))
    read inner r
  | .memoizing cache inner, _, r => Cache.read cache (read inner) r
  | .actorLimit _ inner, _, r => read inner r
  | .instrumented instrumenter inner, _, r =>
    watched instrumenter r.name inner.name r.details r.shown (read inner r)
  | .failsafe caught inner, _, r =>
    safely caught r.name inner.name r.details r.nothing (read inner r)
  | .failover _ caught primary secondary, _, r =>
    readEither caught r.name primary.name secondary.name (read primary r) (read secondary r)
  | .dualWrite home _, _, r => read home r

end Adapter

end FeatureGates
