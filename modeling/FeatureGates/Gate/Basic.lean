import FeatureGates.Gate.Thing

/-!
# The six gates

A gate is one way to open a feature. `Gate.order` is the order in which a
check asks them. A thing goes to the first gate that takes it
(`Gate.route`); no thing is taken by two.
-/

namespace FeatureGates

inductive Gate where
  | boolean
  | expression
  | actor
  | group
  | percentageOfActors
  | percentageOfTime
deriving DecidableEq

/-- How a store keeps the values of a gate. -/
inductive DataType where
  | boolean
  | document
  | set
  | number
deriving DecidableEq

def DataType.name : DataType → String
  | .boolean => "boolean"
  | .document => "json"
  | .set => "set"
  | .number => "number"

namespace Gate

def order : List Gate :=
  [.boolean, .expression, .actor, .group, .percentageOfActors, .percentageOfTime]

theorem mem_order (gate : Gate) : gate ∈ order := by
  cases gate <;> decide

def name : Gate → String
  | .boolean => "boolean"
  | .expression => "expression"
  | .actor => "actor"
  | .group => "group"
  | .percentageOfActors => "percentage_of_actors"
  | .percentageOfTime => "percentage_of_time"

/-- What a store keeps the gate's values under. -/
def key : Gate → String
  | .actor => "actors"
  | .group => "groups"
  | gate => gate.name

def dataType : Gate → DataType
  | .boolean => .boolean
  | .expression => .document
  | .actor | .group => .set
  | .percentageOfActors | .percentageOfTime => .number

/-- The label that a gate is written with. -/
def label : Gate → String
  | .boolean => "BooleanGate"
  | .expression => "ExpressionGate"
  | .actor => "ActorGate"
  | .group => "GroupGate"
  | .percentageOfActors => "PercentageOfActorsGate"
  | .percentageOfTime => "PercentageOfTimeGate"

def written (gate : Gate) : String := gate.label ++ "()"

def ofName? (name : String) : Option Gate := order.find? (·.name = name)

/-! ## Routing -/

/-- The gate takes the thing. -/
def protects (gate : Gate) (thing : Value) : Bool :=
  match gate, thing with
  | .boolean, .wrapped (.boolean _) => true
  | .boolean, .bool _ => true
  | .expression, .wrapped (.expression _) => true
  | .expression, .node _ => true
  | .actor, .wrapped (.actor _ _) => true
  | .actor, _ => thing.isActorLike
  | .group, .wrapped (.group _) => true
  | .group, .text _ => true
  | .percentageOfActors, .wrapped (.percentageOfActors _) => true
  | .percentageOfTime, .wrapped (.percentageOfTime _) => true
  | _, _ => false

/-- The first gate that takes the thing. -/
def route (thing : Value) : Except Failure Gate :=
  match order.find? (·.protects thing) with
  | some gate => .ok gate
  | none => do throw (.noGate (← thing.written))

/-- The thing in the wrapper of the gate. -/
def wrap (gate : Gate) (registry : Registry) (thing : Value) : Except Failure Wrapped :=
  match gate with
  | .boolean => Wrapped.wrapBoolean thing
  | .expression => Wrapped.wrapExpression registry thing
  | .actor => Wrapped.wrapActor thing
  | .group => Wrapped.wrapGroup thing
  | .percentageOfActors => Wrapped.wrapPercentageOfActors thing
  | .percentageOfTime => Wrapped.wrapPercentageOfTime thing

/-! ## What a stored value opens -/

/-- The stored value opens the gate for someone. -/
def isEnabled (gate : Gate) (value : Value) : Bool :=
  match gate, value with
  | .boolean, .bool b => b
  | .expression, .record entries => !entries.isEmpty
  | .actor, _ => value.isPresent
  | .group, _ => value.isPresent
  | .percentageOfActors, .number n => Number.lt (.int 0) n
  | .percentageOfTime, .number n => Number.lt (.int 0) n
  | _, _ => false

end Gate

end FeatureGates
