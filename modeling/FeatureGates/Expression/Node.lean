import FeatureGates.Expression.Operator
import FeatureGates.Value.Scalar

/-!
# Expression trees

A tree has scalars at its leaves and operators at its inner nodes. It
knows nothing of how an operator is evaluated; here are its written forms
and its equality (`Node.equals`), by which trees are equal if they have
one shape, the same operators and strictly equal leaves. A tree that holds
NaN is therefore not even equal to itself.
-/

namespace FeatureGates

inductive Node where
  | constant (value : Scalar)
  | call (operator : Operator) (args : List Node)

/-- The name and label of a leaf. -/
def constantName : String := "Constant"

namespace Node

/-- The name of the operator in object notation. -/
def name : Node → String
  | .constant _ => constantName
  | .call operator _ => operator.signature.name

/-- The label that a node is written with. -/
def label : Node → String
  | .constant _ => constantName
  | .call operator _ => operator.signature.label

def args : Node → List Node
  | .constant _ => []
  | .call _ args => args

/-! ## Identity and equality -/

mutual

def decEq : (a b : Node) → Decidable (a = b)
  | .constant x, .constant y =>
    if h : x = y then isTrue (by rw [h]) else isFalse (by simpa using h)
  | .call f xs, .call g ys =>
    if h : f = g then
      match decEqAll xs ys with
      | isTrue hs => isTrue (by rw [h, hs])
      | isFalse hs => isFalse (by simp [hs])
    else isFalse (by simp [h])
  | .constant _, .call _ _ => isFalse (by simp)
  | .call _ _, .constant _ => isFalse (by simp)

def decEqAll : (xs ys : List Node) → Decidable (xs = ys)
  | [], [] => isTrue rfl
  | x :: xs, y :: ys =>
    match decEq x y, decEqAll xs ys with
    | isTrue h, isTrue hs => isTrue (by rw [h, hs])
    | isFalse h, _ => isFalse (by simp [h])
    | _, isFalse hs => isFalse (by simp [hs])
  | [], _ :: _ => isFalse (by simp)
  | _ :: _, [] => isFalse (by simp)

end

instance : DecidableEq Node := decEq

mutual

/-- One shape, the same operators, strictly equal leaves. -/
def equals : Node → Node → Bool
  | .constant x, .constant y => x.strictEquals y
  | .call f xs, .call g ys => f = g && equalsAll xs ys
  | _, _ => false

def equalsAll : List Node → List Node → Bool
  | [], [] => true
  | x :: xs, y :: ys => equals x y && equalsAll xs ys
  | _, _ => false

end

/-! ## Written forms -/

/-- Object notation of an operator around the written forms of its arguments. -/
def writtenCall (signature : Signature) (args : List String) : String :=
  let body :=
    match signature.bare, args with
    | true, [arg] => arg
    | _, _ => bracketed "[" "]" args
  "\x7b" ++ Text.quoted signature.name ++ ": " ++ body ++ "\x7d"

mutual

/-- Object notation of a tree, written out. -/
def writtenObject : Node → Except Failure String
  | .constant value => value.written
  | .call operator args => do return writtenCall operator.signature (← writtenObjects args)

def writtenObjects : List Node → Except Failure (List String)
  | [] => .ok []
  | arg :: rest => do return (← writtenObject arg) :: (← writtenObjects rest)

end

/-- A tree is written as its label around its object notation. -/
def written (node : Node) : Except Failure String := do
  return node.label ++ "(" ++ (← node.writtenObject) ++ ")"

end Node

end FeatureGates
