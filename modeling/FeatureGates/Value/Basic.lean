import FeatureGates.Expression.Node
import FeatureGates.Value.Percentage

/-!
# Values

What a caller hands in, a property holds, a store keeps and an answer
shows: scalars, containers, actors, objects with named attributes,
expression trees and the six typed wrappers (`Wrapped`), one for each gate.

A record keeps its entries in the order in which their keys came; a set
keeps its members in the order in which they were put in.
-/

namespace FeatureGates

mutual

inductive Value where
  | scalar (s : Scalar)
  | list (items : List Value)
  | tuple (items : List Value)
  | set (items : List Value)
  | record (entries : List (Value × Value))
  | actor (id properties : Value)
  | object (attributes : List (String × Value))
  | node (tree : Node)
  | wrapped (thing : Wrapped)

/-- A thing in the form in which one gate takes it. An actor is kept with
the text of its id. -/
inductive Wrapped where
  | actor (thing : Value) (id : String)
  | group (name : Value)
  | boolean (value : Value)
  | percentageOfActors (percentage : Percentage)
  | percentageOfTime (percentage : Percentage)
  | expression (tree : Node)

end

/-- The entries of a record, in the order of their keys' arrival. -/
abbrev Entries := List (Value × Value)

namespace Value

@[match_pattern] abbrev null : Value := .scalar .null
@[match_pattern] abbrev bool (b : Bool) : Value := .scalar (.bool b)
@[match_pattern] abbrev number (n : Number) : Value := .scalar (.number n)
@[match_pattern] abbrev int (n : Int) : Value := .scalar (.number (.int n))
@[match_pattern] abbrev float (x : Binary64) : Value := .scalar (.number (.float x))
@[match_pattern] abbrev text (s : String) : Value := .scalar (.text s)

def emptyRecord : Value := .record []

def isNull : Value → Bool
  | .null => true
  | _ => false

theorem isNull_eq_false {value : Value} (h : value ≠ .null) : value.isNull = false := by
  unfold isNull
  split
  · exact absurd rfl h
  · rfl

/-- The items of a list or tuple. -/
def sequence? : Value → Option (List Value)
  | .list items => some items
  | .tuple items => some items
  | _ => none

/-- The name of the kind of a wrapper. -/
def wrappedKind : Wrapped → String
  | .actor _ _ => "ActorType"
  | .group _ => "GroupType"
  | .boolean _ => "BooleanType"
  | .percentageOfActors _ => "PercentageOfActorsType"
  | .percentageOfTime _ => "PercentageOfTimeType"
  | .expression _ => "ExpressionType"

/-- The name of the kind of a value. -/
def kind : Value → String
  | .scalar s => s.kind
  | .list _ => "list"
  | .tuple _ => "tuple"
  | .set _ => "set"
  | .record _ => "dict"
  | .actor _ _ => "Actor"
  | .object _ => "types.SimpleNamespace"
  | .node tree => tree.label
  | .wrapped thing => wrappedKind thing

/-- The name of the kind without the namespace it lives in. -/
def shortKind : Value → String
  | .object _ => "SimpleNamespace"
  | value => value.kind

/-! ## Records -/

/-- A record of text keys. -/
def ofFields (fields : List (String × Value)) : Value :=
  .record (fields.map fun field => (.text field.1, field.2))

end Value

namespace Entries

/-- The value under a text key. -/
def get? (entries : Entries) (key : String) : Option Value :=
  match entries with
  | [] => none
  | (.text k, value) :: rest => if k = key then some value else get? rest key
  | _ :: rest => get? rest key

/-- The value under a text key, null if there is none. -/
def get (entries : Entries) (key : String) : Value := (get? entries key).getD .null

end Entries

/-! ## Object notation of a tree, as a value -/

namespace Node

mutual

/-- Object notation: a leaf as its scalar, an operator as a record of one
entry, its name, over the list of its arguments or over the lone bare one. -/
def toObject : Node → Value
  | .constant value => .scalar value
  | .call operator args =>
    let signature := operator.signature
    let body :=
      match signature.bare, toObjects args with
      | true, [arg] => arg
      | _, objects => .list objects
    .record [(.text signature.name, body)]

def toObjects : List Node → List Value
  | [] => []
  | arg :: rest => toObject arg :: toObjects rest

end

/-- Object notation that reads back as a tree also where it is a lone leaf. -/
def toStored : Node → Value
  | .constant value => .record [(.text constantName, .scalar value)]
  | tree => tree.toObject

end Node

end FeatureGates
