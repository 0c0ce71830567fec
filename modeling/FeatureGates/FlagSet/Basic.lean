import FeatureGates.Adapter.Scope
import FeatureGates.Adapter.Write

/-!
# Flag sets

A flag set is an adapter to keep flags behind, an instrumenter to report
to, and the operators that stored expressions may use. A feature is no more
than its name: what is known of it is asked of the adapter each time.
-/

namespace FeatureGates

structure FlagSet where
  adapter : Adapter
  instrumenter : Instrumenter
  registry : Registry
  /-- What the operators mean that were added to the registry. -/
  meaning : Meaning

namespace FlagSet

/-- What checks know, with the groups that are registered now. -/
def environment (flags : FlagSet) : Run Environment := do
  return ⟨flags.registry, flags.meaning, (← get).groups⟩

def isReadOnly (flags : FlagSet) : Bool := flags.adapter.isReadOnly

/-- Runs an operation on a feature under observation. -/
def observe (flags : FlagSet) (feature operation : String) (body : Observed Bool) : Run Bool :=
  flags.instrumenter.observe Event.featureOperation
    [("feature_name", .text feature), ("operation", .text operation)] Value.bool body

/-! ## Features as such -/

def add (flags : FlagSet) (feature : String) : Run Bool :=
  flags.observe feature "add" (Observed.ofRun (flags.adapter.write feature .add))

def remove (flags : FlagSet) (feature : String) : Run Bool :=
  flags.observe feature "remove" (Observed.ofRun (flags.adapter.write feature .remove))

def clear (flags : FlagSet) (feature : String) : Run Bool :=
  flags.observe feature "clear" (Observed.ofRun (flags.adapter.write feature .clear))

def exist (flags : FlagSet) (feature : String) : Run Bool :=
  flags.observe feature "exist?" do
    return (← Observed.ofRun (flags.adapter.read .features)).contains feature

/-- The names of all features, in ascending order. -/
def features (flags : FlagSet) : Run (List String) := do
  return (← flags.adapter.read .features).names

/-- Reads several features at once, so that a cache knows them. -/
def preload (flags : FlagSet) (features : List String) : Run (List String) := do
  let _ ← flags.adapter.read (.getMulti features)
  return features

/-- Reads all features at once; their names. -/
def preloadAll (flags : FlagSet) : Run (List String) := do
  return (← flags.adapter.read .getAll).rows.map (·.1)

/-! ## Groups -/

def register (group : Group) (name : String) : Run Unit :=
  modify fun world => { world with groups := world.groups.put name group }

def unregisterGroups : Run Unit := modify fun world => { world with groups := .empty }

end FlagSet

end FeatureGates
