import FeatureGates.Expression.Registry
import FeatureGates.Value.Order
import FeatureGates.Value.Written

/-!
# Building trees

`build` reads a tree off object notation: a scalar is a leaf, a record of
one entry is a node whose name the registry knows, an existing tree stands
for itself. Of a record the number of keys is checked first, then the
name, then the number of arguments, then the arguments from left to right.
-/

namespace FeatureGates

namespace Node

/-- A body that is a list or tuple holds the arguments, any other is the only one. -/
def argumentsOf : Value → List Value
  | .list items => items
  | .tuple items => items
  | value => [value]

/-- The node type that a key stands for. -/
def resolve (registry : Registry) (key : Value) : Except Failure NodeType :=
  match key with
  | .text name =>
    match registry.find? name with
    | some type => .ok type
    | none => .error (.unknownOperator name)
  | _ => do throw (.unknownOperator (← key.shown))

def checkArity (signature : Signature) (count : Nat) : Except Failure Unit :=
  if signature.arity.admits count then .ok ()
  else .error (.wrongArgumentCount signature.name signature.arity count)

/-- A leaf of a value, which has to be a scalar. -/
def leaf (value : Value) : Except Failure Node :=
  match value with
  | .scalar s => .ok (.constant s)
  | _ => do throw (.constantNotScalar (← value.written))

/-- The node type and the unread arguments of one entry of object notation. -/
def parseEntry (registry : Registry) (key body : Value) :
    Except Failure (NodeType × List Value) := do
  let type ← resolve registry key
  let args := argumentsOf body
  checkArity type.signature args.length
  return (type, args)

/-- The failure of a record that has not exactly one key. -/
def wrongKeyCount (entries : Entries) : Except Failure Failure := do
  return .wrongKeyCount (← (Value.list (← Value.sorted (entries.map (·.1)))).written)

/-- The node type and the unread arguments of a record. -/
def parse (registry : Registry) (entries : Entries) : Except Failure (NodeType × List Value) :=
  match entries with
  | [(key, body)] => parseEntry registry key body
  | _ => do throw (← wrongKeyCount entries)

mutual

/-- Reads a tree off object notation. -/
def build (registry : Registry) : Value → Except Failure Node
  | .scalar s => .ok (.constant s)
  | .node tree => .ok tree
  | .record [(key, .list items)] => do
    match ← parseEntry registry key (.list items) with
    | (.constant, _) => buildLeaf items
    | (.operator operator, _) => return .call operator (← buildAll registry items)
  | .record [(key, .tuple items)] => do
    match ← parseEntry registry key (.tuple items) with
    | (.constant, _) => buildLeaf items
    | (.operator operator, _) => return .call operator (← buildAll registry items)
  | .record [(key, body)] => do
    match ← parseEntry registry key body with
    | (.constant, _) => leaf body
    | (.operator operator, _) => return .call operator [← build registry body]
  | .record entries => do throw (← wrongKeyCount entries)
  | value => do throw (.notAnExpression (← value.written))

def buildAll (registry : Registry) : List Value → Except Failure (List Node)
  | [] => .ok []
  | arg :: rest => do return (← build registry arg) :: (← buildAll registry rest)

/-- The leaf of a list of arguments that has been counted. -/
def buildLeaf : List Value → Except Failure Node
  | value :: _ => leaf value
  | [] => .error (.wrongArgumentCount constantName NodeType.constant.signature.arity 0)

end

/-- The tree of a built-in operator over a body in object notation. -/
def ofBody (operator : Builtin) (body : Value) : Except Failure Node :=
  build .standard (.record [(.text operator.signature.name, body)])

/-! ## Making a node from arguments -/

/-- An argument that is a tree or a scalar. -/
def ofArgument (value : Value) : Except Failure Node :=
  match value with
  | .node tree => .ok tree
  | .scalar s => .ok (.constant s)
  | _ => do throw (.notAnArgument (← value.written))

/-- A node of a node type from trees and scalars. -/
def make (type : NodeType) (args : List Value) : Except Failure Node :=
  match type, args with
  | .constant, [value] => leaf value
  | .constant, _ => .error .wrongCall
  | .operator operator, _ => do
    checkArity operator.signature args.length
    return .call operator (← args.mapM ofArgument)

end Node

end FeatureGates
