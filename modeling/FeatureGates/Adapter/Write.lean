import FeatureGates.Adapter.Read

/-!
# Writing through adapters

`Adapter.write` makes one of the five writes to a feature and answers
whether it was made, or, for the adding of a feature, whether that is new.

A memoizing adapter drops from its cache what the write may have changed,
once the write has succeeded. Of two adapters behind one, the second is
written only after the first has been.
-/

namespace FeatureGates

namespace Adapter

/-- A write that reaches a store. Disabling the truth value of a feature
clears the feature, in a call of its own. -/
def writeStore (store feature : String) (write : Write) : Run Bool := do
  Run.call store write.name (write.keys feature)
  match write with
  | .add => Run.file store (Filing.add feature)
  | .remove => Run.file store (Filing.remove feature)
  | .clear => Run.file store (Filing.clear feature)
  | .enable slot thing => Run.file store (Filing.enable feature slot thing)
  | .disable slot thing =>
    if ← Run.file store (Filing.disable feature slot thing) then
      Run.call store Write.clear.name (Write.clear.keys feature)
      Run.file store (Filing.clear feature)
    else return true

/-- The feature has as many actors as the limit allows. -/
def atLimit (limit : Int) (values : Run Entries) : Run Bool := do
  let names ← Run.ofExcept (Raw.toNames (Entries.get (← values) Gate.actor.key))
  return limit ≤ names.size

/-- Whether a write adds an actor. -/
def addsActor : Write → Bool
  | .enable (.gate .actor) _ => true
  | _ => false

def write : Adapter → String → Write → Run Bool
  | .memory store _, feature, w => writeStore store feature w
  | .passThrough inner, feature, w => write inner feature w
  | .readOnly _, _, _ => throw (.writeAttempted Failure.readOnlyReason)
  | .strict _ inner, feature, w => write inner feature w
  | .memoizing cache inner, feature, w => do
    let made ← write inner feature w
    Run.modifyCache cache (·.afterWrite feature w)
    return made
  | .actorLimit limit inner, feature, w => do
    if addsActor w then
      if ← atLimit limit (inner.read (.get feature)) then
        throw (.actorLimitExceeded feature limit)
    write inner feature w
  | .instrumented instrumenter inner, feature, w =>
    watched instrumenter w.name inner.name (w.details feature) Value.bool (write inner feature w)
  | .failsafe caught inner, feature, w =>
    safely caught w.name inner.name (w.details feature) false (write inner feature w)
  | .failover writesBoth _ primary secondary, feature, w => do
    let made ← write primary feature w
    if writesBoth then
      let _ ← write secondary feature w
    return made
  | .dualWrite home remote, feature, w => do
    let made ← write remote feature w
    let _ ← write home feature w
    return made

end Adapter

end FeatureGates
