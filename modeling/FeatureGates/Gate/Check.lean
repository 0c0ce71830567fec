import FeatureGates.Expression.Evaluate
import FeatureGates.Gate.Values
import FeatureGates.Table

/-!
# Checking the gates

A check asks the six gates in order (`Gate.order`) and stops at the first
that is open (`firstOpen`). What it can look at is the feature's name, the
values of its gates and the actor, if there is one (`CheckContext`).

A stored expression that fails to build or to evaluate closes its gate and
leaves a warning; every other failure ends the check.
-/

namespace FeatureGates

/-- A named group and, if it has one, the predicate that tells its members. -/
structure Group where
  name : Value
  predicate : Option (Value → Check Value)

/-- Registered groups by name, in the order of their registration. -/
abbrev Groups := Table Group

/-- What a check knows beside the feature: the operators that stored
expressions may use, what added ones mean, and the groups. -/
structure Environment where
  registry : Registry
  meaning : Meaning
  groups : Groups

/-- An actor that is asked about, with the text of its id. -/
structure Subject where
  thing : Value
  id : String

/-- The actor that a thing is or wraps. -/
def Subject.ofThing (thing : Value) : Except Failure Subject := do
  match ← Wrapped.wrapActor thing with
  | .actor inner id => return ⟨inner, id⟩
  | _ => throw (.invalidThing .actor (← thing.written))

structure CheckContext where
  feature : CodePoints
  values : GateValues
  subject : Option Subject

namespace CheckContext

/-- What an expression may look at. -/
def evaluation (context : CheckContext) : EvaluationContext where
  feature := some context.feature
  properties := match context.subject with
    | some subject => subject.thing.actorProperties
    | none => .emptyRecord

end CheckContext

namespace Gate

/-- The truth value of a stored expression. -/
def evaluateStored (environment : Environment) (context : CheckContext) (stored : Entries) :
    Check Bool := do
  let tree ← Check.ofExcept (Node.build environment.registry (.record stored))
  let operand ← tree.evaluate environment.meaning context.evaluation
  Check.ofExcept operand.value.truthy

/-- The gate of a stored expression; a failure leaves it closed, with a warning. -/
def expressionIsOpen (environment : Environment) (context : CheckContext) : Check Bool :=
  match context.values.expression with
  | none => pure false
  | some stored =>
    tryCatch (evaluateStored environment context stored) fun failure => do
      Check.warn "expression evaluation failed"
        [("feature_name", .name context.feature), ("expression", .value (.record stored)),
          ("error", .value (.text failure.message))]
      return false

/-- Actors with an empty id are no actors. -/
def actorIsOpen (context : CheckContext) : Bool :=
  match context.subject with
  | some subject => !subject.id.isEmpty && context.values.actors.contains subject.id
  | none => false

/-- Whether the subject is in one of the named groups; later ones are not asked. -/
def anyGroupMatches (groups : Groups) (thing : Value) : List String → Check Bool
  | [] => pure false
  | name :: rest =>
    match (groups.find? name).bind (·.predicate) with
    | some predicate => do
      if (← predicate thing).isPresent then return true else anyGroupMatches groups thing rest
    | none => anyGroupMatches groups thing rest

def groupIsOpen (groups : Groups) (context : CheckContext) : Check Bool :=
  match context.subject with
  | some subject => anyGroupMatches groups subject.thing context.values.groups.names
  | none => pure false

def percentageOfActorsIsOpen (context : CheckContext) : Check Bool :=
  match context.subject with
  | some subject =>
    Check.ofExcept
      (Rollout.includes context.feature subject.id context.values.percentageOfActors)
  | none => pure false

/-- Open for the given share of checks; the draw is made in any case. -/
def percentageOfTimeIsOpen (context : CheckContext) : Check Bool := do
  let drawn ← Check.draw
  let share ← Check.ofExcept (context.values.percentageOfTime.divNat 100)
  return drawn.lt (.float share)

/-- The gate lets the subject of the check through. -/
def isOpen (gate : Gate) (environment : Environment) (context : CheckContext) : Check Bool :=
  match gate with
  | .boolean => pure context.values.boolean
  | .expression => expressionIsOpen environment context
  | .actor => pure (actorIsOpen context)
  | .group => groupIsOpen environment.groups context
  | .percentageOfActors => percentageOfActorsIsOpen context
  | .percentageOfTime => percentageOfTimeIsOpen context

/-- The first open one of some gates; those after it are not asked. -/
def firstOpenOf (environment : Environment) (context : CheckContext) :
    List Gate → Check (Option Gate)
  | [] => pure none
  | gate :: rest => do
    if ← gate.isOpen environment context then return some gate
    else firstOpenOf environment context rest

/-- The first open gate. -/
def firstOpen (environment : Environment) (context : CheckContext) : Check (Option Gate) :=
  firstOpenOf environment context order

end Gate

end FeatureGates
