import FeatureGates.Gate.Check
import FeatureGates.Instrumentation.Event
import FeatureGates.Store.Cache
import FeatureGates.Store.Records

/-!
# The world that flags live in

Everything that operations on flags share and change: the surroundings of
checks, the registered groups, the stores, the caches and the events that
have been recorded. A `Run` goes on in it and may fail; what has happened by
then stays.

Whether a call to a store fails on the way is up to the store's `outage`,
by the number of the call and the name of the operation. A call leaves its
sighting in any case, and a call that fails has not touched the records.
-/

namespace FeatureGates

structure Store where
  records : Records
  outage : Nat → String → Option Failure
  calls : Nat

namespace Store

/-- An empty store without outages. -/
def fresh : Store := ⟨.empty, fun _ _ => none, 0⟩

end Store

structure World where
  surroundings : Surroundings
  groups : Groups
  stores : Table Store
  caches : Table Cache
  events : List Event
  /-- The reads under way overlap. -/
  overlapping : Bool

namespace World

def fresh (surroundings : Surroundings) : World :=
  ⟨surroundings, .empty, .empty, .empty, [], false⟩

def store (world : World) (name : String) : Store := (world.stores.find? name).getD .fresh

def putStore (world : World) (name : String) (store : Store) : World :=
  { world with stores := world.stores.put name store }

def cache (world : World) (name : String) : Cache := (world.caches.find? name).getD .idle

def putCache (world : World) (name : String) (cache : Cache) : World :=
  { world with caches := world.caches.put name cache }

theorem store_putStore (world : World) (name other : String) (store : Store) :
    (world.putStore name store).store other =
      if other = name then store else world.store other := by
  simp only [World.store, putStore, Table.find?_put]
  split <;> rfl

theorem cache_putCache (world : World) (name other : String) (cache : Cache) :
    (world.putCache name cache).cache other =
      if other = name then cache else world.cache other := by
  simp only [World.cache, putCache, Table.find?_put]
  split <;> rfl

theorem store_putCache (world : World) (name other : String) (cache : Cache) :
    (world.putCache name cache).store other = world.store other := rfl

theorem cache_putStore (world : World) (name other : String) (store : Store) :
    (world.putStore name store).cache other = world.cache other := rfl

end World

abbrev Run := EStateM Failure World

namespace Run

variable {α : Type}

/-- A check goes on in the surroundings. -/
def ofCheck (check : Check α) : Run α := fun world =>
  match check.run world.surroundings with
  | .ok value surroundings => .ok value { world with surroundings }
  | .error failure surroundings => .error failure { world with surroundings }

def ofExcept (result : Except Failure α) : Run α :=
  match result with
  | .ok value => pure value
  | .error failure => throw failure

instance : MonadLift Check Run := ⟨ofCheck⟩

instance : MonadLift (Except Failure) Run := ⟨ofExcept⟩

/-- How a run ends, as a value; it does not fail itself. -/
def outcome (run : Run α) : Run (Except Failure α) := fun world =>
  match run world with
  | .ok value world => .ok (.ok value) world
  | .error failure world => .ok (.error failure) world

def sight (sighting : Sighting) : Run Unit := ofCheck (Check.sight sighting)

def warn (message : String) (fields : List (String × Value)) : Run Unit :=
  ofCheck (Check.warn message (LogField.ofValues fields))

/-! ## Stores -/

/-- A call that reaches a store, before anything is done there. -/
def call (name operation : String) (keys : List String) : Run Unit := do
  sight (.call name operation keys)
  let store := (← get).store name
  modify (·.putStore name { store with calls := store.calls + 1 })
  match store.outage store.calls operation with
  | some failure => throw failure
  | none => return

def recordsOf (name : String) : Run Records := do return ((← get).store name).records

/-- Files something in the records of a store. -/
def file (name : String) (filing : Filing α) : Run α := fun world =>
  let store := world.store name
  match filing.run store.records with
  | .ok value records => .ok value (world.putStore name { store with records })
  | .error failure records => .error failure (world.putStore name { store with records })

/-! ## Caches -/

def modifyCache (name : String) (change : Cache → Cache) : Run Unit :=
  modify fun world => world.putCache name (change (world.cache name))

/-- The outcomes of a read that is started several times at once. -/
def overlap (count : Nat) (run : Run α) : Run (List (Except Failure α)) := do
  modify fun world => { world with overlapping := true }
  let outcomes ← (List.replicate count run).mapM outcome
  modify fun world =>
    { world with overlapping := false, caches := world.caches.map fun _ cache => cache.forgetFailed }
  return outcomes

end Run

end FeatureGates
