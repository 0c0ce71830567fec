import FeatureGates.FlagSet.Basic

/-!
# Enabling and disabling

A thing goes to the gate that takes it, in that gate's wrapper; only then
is the operation observed, the feature added and the gate written. So a
thing that no gate takes, or that its gate cannot wrap, leaves nothing
behind.
-/

namespace FeatureGates

/-- The two ways to write a gate. -/
inductive Change where
  | enable
  | disable
deriving DecidableEq

namespace Change

def name : Change → String
  | .enable => "enable"
  | .disable => "disable"

/-- What is meant by no thing at all: everyone or no one. -/
def everyone : Change → Value
  | .enable => .bool true
  | .disable => .bool false

def toWrite (change : Change) (gate : Gate) (thing : Value) : Write :=
  match change with
  | .enable => .enable (.gate gate) thing
  | .disable => .disable (.gate gate) thing

end Change

namespace FlagSet

/-- Adds the feature and then writes one of its gates. -/
def writeGate (flags : FlagSet) (feature : String) (change : Change) (gate : Gate)
    (thing : Value) : Run Bool := do
  let _ ← flags.adapter.write feature .add
  flags.adapter.write feature (change.toWrite gate thing)

/-- Enables or disables a feature for a thing; for everyone if that is null. -/
def change (flags : FlagSet) (feature : String) (change : Change) (thing : Value) : Run Bool := do
  let thing := if thing.isNull then change.everyone else thing
  let gate ← Run.ofExcept (Gate.route thing)
  let wrapped ← Run.ofExcept (gate.wrap flags.registry thing)
  flags.observe feature change.name do
    Observed.note "gate_name" (.text gate.key)
    Observed.note "thing" (.wrapped wrapped)
    Observed.ofRun (flags.writeGate feature change gate (.wrapped wrapped))

/-- Enables or disables a feature for what has been wrapped for a gate. -/
def changeWrapped (flags : FlagSet) (feature : String) (change : Change)
    (wrapped : Except Failure Wrapped) : Run Bool := do
  flags.change feature change (.wrapped (← Run.ofExcept wrapped))

def enable (flags : FlagSet) (feature : String) (thing : Value) : Run Bool :=
  flags.change feature .enable thing

def disable (flags : FlagSet) (feature : String) (thing : Value) : Run Bool :=
  flags.change feature .disable thing

def changeActor (flags : FlagSet) (feature : String) (change : Change) (actor : Value) :
    Run Bool :=
  flags.changeWrapped feature change (Wrapped.wrapActor actor)

def changeGroup (flags : FlagSet) (feature : String) (change : Change) (group : Value) :
    Run Bool :=
  flags.changeWrapped feature change (Wrapped.wrapGroup group)

def enablePercentageOfActors (flags : FlagSet) (feature : String) (percentage : Value) :
    Run Bool :=
  flags.changeWrapped feature .enable (Wrapped.wrapPercentageOfActors percentage)

def enablePercentageOfTime (flags : FlagSet) (feature : String) (percentage : Value) :
    Run Bool :=
  flags.changeWrapped feature .enable (Wrapped.wrapPercentageOfTime percentage)

def enableExpression (flags : FlagSet) (feature : String) (expression : Value) : Run Bool :=
  flags.changeWrapped feature .enable (Wrapped.wrapExpression flags.registry expression)

def disablePercentageOfActors (flags : FlagSet) (feature : String) : Run Bool :=
  flags.changeWrapped feature .disable (.ok (.percentageOfActors .zero))

def disablePercentageOfTime (flags : FlagSet) (feature : String) : Run Bool :=
  flags.changeWrapped feature .disable (.ok (.percentageOfTime .zero))

/-- Takes away the expression and leaves all other gates alone. -/
def disableExpression (flags : FlagSet) (feature : String) : Run Bool :=
  flags.observe feature Change.disable.name do
    Observed.note "gate_name" (.text Gate.expression.key)
    Observed.ofRun (flags.writeGate feature .disable .expression .null)

end FlagSet

end FeatureGates
