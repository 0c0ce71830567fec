import FeatureGates.FlagSet.Basic

/-!
# Asking about features

`FlagSet.isEnabled` asks the gates of a feature in order; the state of a
feature and the views of its gates look at the stored values alone. Every
question reads the values anew.
-/

namespace FeatureGates

/-- On for everyone, off for everyone, or something between. -/
inductive FeatureState where
  | on
  | off
  | conditional
deriving DecidableEq

def FeatureState.name : FeatureState → String
  | .on => "on"
  | .off => "off"
  | .conditional => "conditional"

/-- What stored values make of a feature. That a truth value is stored as
false does not count against it. -/
def GateValues.state (values : GateValues) : FeatureState :=
  if values.boolean || values.percentageOfTime.eq (.int 100) then .on
  else if Gate.order.any fun gate => gate ≠ .boolean && values.opens gate then .conditional
  else .off

namespace FlagSet

def gateValues (flags : FlagSet) (feature : String) : Run GateValues := do
  let raw ← flags.adapter.read (.get feature)
  Run.ofExcept (GateValues.ofEntries raw)

/-- The actor that a thing is; null is none. -/
def subjectOf (thing : Value) : Observed (Option Subject) := do
  if thing.isNull then return none
  Observed.note "thing" thing
  return some (← Observed.ofRun (Run.ofExcept (Subject.ofThing thing)))

/-- One of the gates is open for the thing, or without any if it is null. -/
def isEnabled (flags : FlagSet) (feature : String) (thing : Value) : Run Bool :=
  flags.observe feature "enabled?" do
    let values ← Observed.ofRun (flags.gateValues feature)
    let subject ← subjectOf thing
    let environment ← Observed.ofRun flags.environment
    let check := Gate.firstOpen environment ⟨feature, values, subject⟩
    match ← Observed.ofRun (Run.ofCheck check) with
    | some gate =>
      Observed.note "gate_name" (.text gate.key)
      return true
    | none => return false

/-! ## What the stored values say -/

def state (flags : FlagSet) (feature : String) : Run FeatureState := do
  return (← flags.gateValues feature).state

/-- The gates that stored values open for someone. -/
def enabledGates (flags : FlagSet) (feature : String) : Run (List Gate) := do
  let values ← flags.gateValues feature
  return Gate.order.filter values.opens

def disabledGates (flags : FlagSet) (feature : String) : Run (List Gate) := do
  let enabled ← flags.enabledGates feature
  return Gate.order.filter fun gate => !enabled.contains gate

/-- The registered groups that are enabled, or that are not, in the order of their registration. -/
def groupsThatAre (flags : FlagSet) (enabled : Bool) (feature : String) : Run (List Group) := do
  let names := (← flags.gateValues feature).groups
  let groups := (← get).groups
  return (groups.rows.filter fun row => names.contains row.1 == enabled).map (·.2)

/-- A feature at a glance. -/
structure Overview where
  name : String
  state : FeatureState
  enabledGates : List Gate
  adapter : String

def overview (flags : FlagSet) (feature : String) : Run Overview := do
  let state ← flags.state feature
  return ⟨feature, state, ← flags.enabledGates feature, flags.adapter.name⟩

end FlagSet

end FeatureGates
