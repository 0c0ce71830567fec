import FeatureGates.Table
import FeatureGates.Value.Basic

/-!
# Events

An observed operation carries a payload, which it may add to while it runs.
When it is over, its payload and its outcome make an event.
-/

namespace FeatureGates

abbrev Payload := Table Value

structure Event where
  name : String
  payload : Payload
  /-- The failure it ended in, if it did. -/
  failure : Option Failure
  /-- What it gave, null after a failure. -/
  result : Value

namespace Event

def featureOperation : String := "feature_operation.flipper"

def adapterOperation : String := "adapter_operation.flipper"

/-- The events of one name, in order. -/
def named (events : List Event) (name : String) : List Event :=
  events.filter (·.name = name)

end Event

end FeatureGates
