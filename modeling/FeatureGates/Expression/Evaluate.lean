import FeatureGates.Expression.Rollout
import FeatureGates.Surroundings
import FeatureGates.Text.Casing
import FeatureGates.Time.Timestamp
import FeatureGates.Value.Coercion

/-!
# Evaluating trees

A tree is evaluated from its operators' meanings: `evaluate` turns the
arguments of a node into computations and hands them to the operator,
which runs those it needs, in the order it needs them. So `All` stops at
the first false argument and `Any` at the first true one.

The meaning of built-in operators is `Meaning.ofBuiltin`; the meaning of
added ones is a parameter (`Meaning`).
-/

namespace FeatureGates

/-- What an expression can look at: the feature's name and the actor's properties. -/
structure EvaluationContext where
  feature : Option CodePoints
  properties : Value

/-- The arguments of a node, not yet run. -/
abbrev Arguments := List (Check Operand)

/-- What added operators mean. -/
abbrev Meaning := Signature → Arguments → Check Operand

namespace Value

/-- The property of a name, null if there is none. Only a record has properties. -/
def property (properties : Value) (name : String) : Except Failure Value :=
  match properties with
  | .record entries => .ok (Entries.get entries name)
  | .object attributes =>
    match attributes.lookup "get" with
    | some value => .error (.notCallable value.kind)
    | none => .error (.noMember properties.kind "get")
  | _ => .error (.noMember properties.kind "get")

end Value

namespace Meaning

/-- The value of the argument at a place, null where there is none. -/
def argument (args : Arguments) (index : Nat) : Check Operand :=
  args[index]?.getD (pure (.fresh .null))

def argumentValue (args : Arguments) (index : Nat) : Check Value := do
  return (← argument args index).value

def argumentNumber (args : Arguments) (index : Nat) : Check Number := do
  Check.ofExcept (← argumentValue args index).toNumber

def answer (b : Bool) : Operand := .fresh (.bool b)

/-! ## Logic -/

/-- Runs arguments up to the first whose truth value is `stop`, and tells whether there is one. -/
def anyIs (stop : Bool) : Arguments → Check Bool
  | [] => pure false
  | arg :: rest => do
    let holds ← Check.ofExcept (← arg).value.truthy
    if holds = stop then return true else anyIs stop rest

/-! ## Comparison -/

/-- Compares two arguments; whatever is compared with null gives false. -/
def compare (args : Arguments) (relation : Operand → Operand → Bool) : Check Operand := do
  let left ← argument args 0
  let right ← argument args 1
  return answer (!left.value.isNull && !right.value.isNull && relation left right)

/-- An order holds between two numbers only. -/
def ordering (order : Number → Number → Bool) (left right : Operand) : Bool :=
  match left.value, right.value with
  | .number a, .number b => order a b
  | _, _ => false

/-! ## Conversion -/

/-- The number an argument counts as, zero where it is NaN. -/
def toNumber (args : Arguments) : Check Operand := do
  let n ← argumentNumber args 0
  if ← Check.ofExcept n.checkNaN then return .fresh (.int 0) else return .fresh (.number n)

/-- The text of a text or number, `other` of anything else. -/
def textOr (other : String) (value : Value) : Except Failure String :=
  match value with
  | .text s => .ok s
  | .number n => n.toText
  | _ => .ok other

def toText (args : Arguments) : Check Operand := do
  let value ← argumentValue args 0
  match value with
  | .bool b => return .fresh (.text (if b then "true" else "false"))
  | _ => return .fresh (.text (← Check.ofExcept (textOr "" value)))

/-! ## Properties -/

def property (context : EvaluationContext) (args : Arguments) : Check Operand := do
  let key ← Check.ofExcept (textOr "" (← argumentValue args 0))
  return ⟨← Check.ofExcept (context.properties.property key), .property key⟩

/-! ## Chance and rollout -/

/-- A whole number below the argument; an argument up to one and one that
is not finite gives zero without a draw. -/
def random (args : Arguments) : Check Operand := do
  let maximum ← argumentNumber args 0
  if !(← Check.ofExcept maximum.checkFinite) || maximum.le (.int 1) then return .fresh (.int 0)
  else
    let drawn ← Check.draw
    let scaled ← Check.ofExcept (drawn.mul maximum)
    return .fresh (.int (← Check.ofExcept scaled.floor))

def percentage (args : Arguments) : Check Operand := do
  let value ← argumentNumber args 0
  let percentage ← argumentNumber args 1
  return answer (value.lt percentage)

/-- The rollout of an id; no id and a percentage of zero or NaN include no one. -/
def percentageOfActors (context : EvaluationContext) (args : Arguments) : Check Operand := do
  let id ← Check.ofExcept (textOr "" (← argumentValue args 0))
  let percentage ← argumentNumber args 1
  if id.isEmpty || percentage.isZero then return answer false
  else if ← Check.ofExcept percentage.checkNaN then return answer false
  else
    return answer (← Check.ofExcept (Rollout.includes (context.feature.getD "") id percentage))

/-! ## Time -/

def now : Check Operand := do
  return .fresh (.int (← Check.ofExcept (← Check.now).floor))

/-- Seconds in each unit; a month is a twelfth of a year of 365.2425 days. -/
def secondsPer : List (String × Nat) :=
  Failure.durationUnits.zip [1, 60, 3600, 86400, 604800, 2629746, 31556952]

/-- The unit that a text names, in any case and with or without a plural s. -/
def unitName (text : String) : String :=
  let name := (Text.lower text).toList
  String.ofList (if name.getLast? = some 's' then name.dropLast else name)

/-- A number of units in seconds. Asked for the number again, an argument
that is none shows in the failure. -/
def duration (args : Arguments) : Check Operand := do
  let scalar ← argumentNumber args 0
  let unit := unitName (← Check.ofExcept (textOr "second" (← argumentValue args 1)))
  match secondsPer.lookup unit with
  | none => throw (.unknownDurationUnit unit)
  | some seconds =>
    if ← Check.ofExcept scalar.checkNaN then
      throw (.durationNotANumber (← Check.ofExcept (← argumentValue args 0).written))
    else return .fresh (.number (← Check.ofExcept (scalar.mul (.int seconds))))

/-! ## The built-in operators -/

/-- The meaning of a built-in operator. -/
def ofBuiltin (context : EvaluationContext) (operator : Builtin) (args : Arguments) :
    Check Operand :=
  match operator with
  | .all => do return answer (!(← anyIs false args))
  | .any => do return answer (← anyIs true args)
  | .boolean => do return answer (← Check.ofExcept (← argumentValue args 0).truthy)
  | .number => toNumber args
  | .string => toText args
  | .property => property context args
  | .equal => compare args Operand.strictEquals
  | .notEqual => compare args fun left right => !left.strictEquals right
  | .greaterThan => compare args (ordering fun a b => b.lt a)
  | .greaterThanOrEqualTo => compare args (ordering fun a b => b.le a)
  | .lessThan => compare args (ordering Number.lt)
  | .lessThanOrEqualTo => compare args (ordering Number.le)
  | .random => random args
  | .percentage => percentage args
  | .percentageOfActors => percentageOfActors context args
  | .time => do
    return .fresh (.number (← Check.ofExcept (Timestamp.read (← argumentValue args 0))))
  | .now => now
  | .duration => duration args

end Meaning

namespace Node

mutual

/-- The value of a tree. -/
def evaluate (meaning : Meaning) (context : EvaluationContext) : Node → Check Operand
  | .constant value => pure (.fresh (.scalar value))
  | .call (.builtin operator) args =>
    Meaning.ofBuiltin context operator (evaluateAll meaning context args)
  | .call (.custom signature) args => meaning signature (evaluateAll meaning context args)

/-- The computations of the values of trees. -/
def evaluateAll (meaning : Meaning) (context : EvaluationContext) : List Node → Arguments
  | [] => []
  | arg :: rest => evaluate meaning context arg :: evaluateAll meaning context rest

end

theorem evaluateAll_eq_map (meaning : Meaning) (context : EvaluationContext) (args : List Node) :
    evaluateAll meaning context args = args.map (evaluate meaning context) := by
  induction args with
  | nil => rfl
  | cons arg rest ih => rw [evaluateAll, ih, List.map_cons]

end Node

end FeatureGates
