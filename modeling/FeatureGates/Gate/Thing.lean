import FeatureGates.Expression.Build

/-!
# Things and their wrappers

A thing is what a caller enables a feature for or asks about. Each gate
takes it in a wrapper of its own; wrapping a wrapper of the right kind
gives it back, and whatever else a gate cannot take is an invalid thing.

An actor is whatever has a `flipper_id`, as a key or as an attribute.
-/

namespace FeatureGates

namespace Value

/-- The value of a key of a record or of a named attribute. -/
def member? (thing : Value) (name : String) : Option Value :=
  match thing with
  | .record entries => Entries.get? entries name
  | .object attributes => attributes.lookup name
  | .actor id properties =>
    if name = "flipper_id" then some id
    else if name = "flipper_properties" then some properties
    else none
  | _ => none

/-- The thing has an id to be an actor by. -/
def isActorLike (thing : Value) : Bool := (thing.member? "flipper_id").isSome

/-- Whether a value counts as present: null, `false`, zero and what is empty do not. -/
def isPresent : Value → Bool
  | .null => false
  | .bool b => b
  | .number n => !n.isZero
  | .text s => !s.isEmpty
  | .list items => !items.isEmpty
  | .tuple items => !items.isEmpty
  | .set items => !items.isEmpty
  | .record entries => !entries.isEmpty
  | _ => true

/-- The failure of a thing that was wanted in some role. -/
def refuse (role : Role) (thing : Value) : Except Failure Wrapped := do
  throw (.invalidThing role (← thing.written))

/-- The properties of an actor; an empty record if it has none. -/
def actorProperties (thing : Value) : Value :=
  match thing.member? "flipper_properties" with
  | some .null => emptyRecord
  | some properties => properties
  | none => emptyRecord

end Value

namespace Wrapped

/-! ## Making wrappers -/

/-- Keeps an actor with the text of its id, which has to be there and not null. -/
def ofActor (thing : Value) : Except Failure Wrapped := do
  match thing.member? "flipper_id" with
  | some .null => thing.refuse .actor
  | some id => return .actor thing (← id.shown)
  | none => thing.refuse .actor

/-- A group by its name, which may be anything but null. -/
def ofGroup (name : Value) : Except Failure Wrapped :=
  if name.isNull then name.refuse .group else .ok (.group name)

def ofPercentage (wrap : Percentage → Wrapped) (thing : Value) : Except Failure Wrapped :=
  match thing with
  | .number n => (Percentage.ofNumber n).map wrap
  | _ => thing.refuse .percentage

/-- A wrapper of a tree. What is no tree but has a value of its own fails in asking for it. -/
def ofExpression (thing : Value) : Except Failure Wrapped :=
  match thing with
  | .node tree => .ok (.expression tree)
  | .object attributes =>
    match attributes.lookup "value" with
    | some value => .error (.notCallable value.kind)
    | none => .error (.noMember thing.kind "value")
  | _ => .error (.noMember thing.kind "value")

/-! ## Wrapping -/

def wrapActor (thing : Value) : Except Failure Wrapped :=
  match thing with
  | .wrapped (.actor inner id) => .ok (.actor inner id)
  | _ => if thing.isActorLike then ofActor thing else thing.refuse .actor

def wrapGroup (thing : Value) : Except Failure Wrapped :=
  match thing with
  | .wrapped (.group name) => .ok (.group name)
  | .text name => .ok (.group (.text name))
  | _ => thing.refuse .group

def wrapBoolean (thing : Value) : Except Failure Wrapped :=
  match thing with
  | .wrapped (.boolean value) => .ok (.boolean value)
  | .bool b => .ok (.boolean (.bool b))
  | _ => thing.refuse .boolean

def wrapPercentageOfActors (thing : Value) : Except Failure Wrapped :=
  match thing with
  | .wrapped (.percentageOfActors p) => .ok (.percentageOfActors p)
  | _ => ofPercentage .percentageOfActors thing

def wrapPercentageOfTime (thing : Value) : Except Failure Wrapped :=
  match thing with
  | .wrapped (.percentageOfTime p) => .ok (.percentageOfTime p)
  | _ => ofPercentage .percentageOfTime thing

/-- A tree as it is, or read off object notation. -/
def wrapExpression (registry : Registry) (thing : Value) : Except Failure Wrapped :=
  match thing with
  | .wrapped (.expression tree) => .ok (.expression tree)
  | .node tree => .ok (.expression tree)
  | .record entries => (Node.build registry (.record entries)).map .expression
  | _ => thing.refuse .expression

/-! ## What a wrapper holds -/

/-- The value a wrapper stands for: an id, a name, a truth value, a number
or the object notation of a tree. -/
def value : Wrapped → Value
  | .actor _ id => .text id
  | .group name => name
  | .boolean value => value
  | .percentageOfActors p => .number p.value
  | .percentageOfTime p => .number p.value
  | .expression tree => tree.toStored

end Wrapped

/-- The `value` of a thing that has one, as wrappers do. -/
def Value.heldValue (thing : Value) : Except Failure Value :=
  match thing with
  | .wrapped w => .ok w.value
  | .object attributes =>
    match attributes.lookup "value" with
    | some value => .ok value
    | none => .error (.noMember thing.kind "value")
  | _ => .error (.noMember thing.kind "value")

end FeatureGates
