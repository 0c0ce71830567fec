import FeatureGates.Store.Operation

/-!
# Caches

What a memoizing adapter has learned from the store behind it: the names of
the features and their raw values, and whether that is all there is. A
cache that is not active holds nothing (`Cache.setActive`).

A write drops what it may have changed (`Cache.afterWrite`): the names if
a feature may have come or gone, the values of the feature if they may
have changed, and in any case the knowledge of having everything.

While reads overlap, a load that has failed has failed for all of them;
`failed` keeps its failure until they are over.
-/

namespace FeatureGates

structure Cache where
  active : Bool
  names : Option NameSet
  values : RawFeatures
  complete : Bool
  /-- Failed loads of the names (`none`) or of a feature's values. -/
  failed : List (Option String × Failure)

namespace Cache

/-- The cache that holds nothing. -/
def idle : Cache := ⟨false, none, .empty, false, []⟩

/-- Switches a cache on as it is, or off and empty. -/
def setActive (cache : Cache) (active : Bool) : Cache :=
  if active then { cache with active := true } else idle

theorem setActive_false (cache : Cache) : cache.setActive false = idle := rfl

def putNames (cache : Cache) (names : NameSet) : Cache := { cache with names := some names }

def putValues (cache : Cache) (feature : String) (raw : Entries) : Cache :=
  { cache with values := cache.values.put feature raw }

def putAllValues (cache : Cache) (raw : RawFeatures) : Cache :=
  { cache with values := raw.rows.foldl (fun known row => known.put row.1 row.2) cache.values }

/-- Takes over everything that a store holds. -/
def putEverything (cache : Cache) (raw : RawFeatures) : Cache :=
  { (cache.putAllValues raw).putNames raw.names with complete := true }

/-- What `getAll` would be answered with, if everything is known. -/
def everything? (cache : Cache) : Option RawFeatures :=
  if cache.complete then
    cache.names.map fun names =>
      ⟨names.names.map fun feature => (feature, (cache.values.find? feature).getD [])⟩
  else none

/-- Which of some features have no known values. -/
def unknown (cache : Cache) (features : List String) : List String :=
  features.filter fun feature => !cache.values.contains feature

/-! ## Dropping what may have changed -/

def dropNames (cache : Cache) : Cache := { cache with names := none, complete := false }

def dropValues (cache : Cache) (feature : String) : Cache :=
  { cache with values := cache.values.erase feature, complete := false }

/-- What is still known after a write to a feature. -/
def afterWrite (cache : Cache) (feature : String) (write : Write) : Cache :=
  if cache.active then
    match write with
    | .add => cache.dropNames
    | .remove => cache.dropNames.dropValues feature
    | _ => cache.dropValues feature
  else cache

/-! ## Overlapping reads -/

def noteFailed (cache : Cache) (load : Option String) (failure : Failure) : Cache :=
  { cache with failed := (load, failure) :: cache.failed }

def forgetFailed (cache : Cache) : Cache := { cache with failed := [] }

end Cache

end FeatureGates
