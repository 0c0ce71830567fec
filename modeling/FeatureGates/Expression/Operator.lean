import FeatureGates.Failure

/-!
# Operators of expressions

An operator is one of the built-in ones or one that a caller adds. What
building and writing a tree need to know of either is its `Signature`;
what an added operator means is given apart from it, at evaluation.
-/

namespace FeatureGates

/-- What is fixed of an operator: the name it has in object notation, the
label its nodes are written with, how many arguments it takes, and whether
a lone argument stands in object notation without a list around it. -/
structure Signature where
  name : String
  label : String
  arity : Arity
  bare : Bool
deriving DecidableEq

inductive Builtin where
  | all
  | any
  | boolean
  | duration
  | equal
  | greaterThan
  | greaterThanOrEqualTo
  | lessThan
  | lessThanOrEqualTo
  | notEqual
  | now
  | number
  | percentage
  | percentageOfActors
  | property
  | random
  | string
  | time
deriving DecidableEq

namespace Builtin

/-- A signature whose label is its name. -/
private def plain (name : String) (least : Nat) (most : Option Nat) : Signature :=
  ⟨name, name, ⟨least, most⟩, false⟩

/-- A signature of one bare argument. -/
private def bareOne (name label : String) : Signature := ⟨name, label, ⟨1, some 1⟩, true⟩

def signature : Builtin → Signature
  | .all => plain "All" 0 none
  | .any => plain "Any" 0 none
  | .boolean => bareOne "Boolean" "BooleanExpression"
  | .duration => plain "Duration" 1 (some 2)
  | .equal => plain "Equal" 2 (some 2)
  | .greaterThan => plain "GreaterThan" 2 (some 2)
  | .greaterThanOrEqualTo => plain "GreaterThanOrEqualTo" 2 (some 2)
  | .lessThan => plain "LessThan" 2 (some 2)
  | .lessThanOrEqualTo => plain "LessThanOrEqualTo" 2 (some 2)
  | .notEqual => plain "NotEqual" 2 (some 2)
  | .now => plain "Now" 0 (some 0)
  | .number => bareOne "Number" "NumberExpression"
  | .percentage => plain "Percentage" 2 (some 2)
  | .percentageOfActors => plain "PercentageOfActors" 2 (some 2)
  | .property => bareOne "Property" "Property"
  | .random => bareOne "Random" "Random"
  | .string => bareOne "String" "StringExpression"
  | .time => bareOne "Time" "Time"

/-- Every built-in operator, in the order of names. -/
def every : List Builtin :=
  [.all, .any, .boolean, .duration, .equal, .greaterThan, .greaterThanOrEqualTo, .lessThan,
    .lessThanOrEqualTo, .notEqual, .now, .number, .percentage, .percentageOfActors, .property,
    .random, .string, .time]

end Builtin

inductive Operator where
  | builtin (operator : Builtin)
  | custom (signature : Signature)
deriving DecidableEq

def Operator.signature : Operator → Signature
  | .builtin operator => operator.signature
  | .custom signature => signature

end FeatureGates
