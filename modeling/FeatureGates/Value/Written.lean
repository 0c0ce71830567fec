import FeatureGates.Value.Basic

/-!
# Written forms of values

`Value.written` is the literal form of a value, which messages show;
`Value.shown` differs from it only in that a text stands for itself. Both
fail on an integer that is too long to write.
-/

namespace FeatureGates

namespace Value

/-- A tuple of one item keeps its comma. -/
def writtenTuple : List String → String
  | [item] => "(" ++ item ++ ",)"
  | items => bracketed "(" ")" items

def writtenSet : List String → String
  | [] => "set()"
  | items => bracketed "\x7b" "\x7d" items

mutual

/-- The literal form of a value. -/
def written : Value → Except Failure String
  | .scalar s => s.written
  | .list items => do return bracketed "[" "]" (← writtenAll items)
  | .tuple items => do return writtenTuple (← writtenAll items)
  | .set items => do return writtenSet (← writtenAll items)
  | .record entries => do return bracketed "\x7b" "\x7d" (← writtenEntries entries)
  | .actor id properties => do
    return "Actor(flipper_id=" ++ (← written id)
      ++ ", flipper_properties=" ++ (← written properties) ++ ")"
  | .object attributes => do return bracketed "namespace(" ")" (← writtenAttributes attributes)
  | .node tree => tree.written
  | .wrapped thing => writtenWrapped thing

def writtenAll : List Value → Except Failure (List String)
  | [] => .ok []
  | item :: rest => do return (← written item) :: (← writtenAll rest)

def writtenEntries : List (Value × Value) → Except Failure (List String)
  | [] => .ok []
  | (key, value) :: rest => do
    return ((← written key) ++ ": " ++ (← written value)) :: (← writtenEntries rest)

def writtenAttributes : List (String × Value) → Except Failure (List String)
  | [] => .ok []
  | (name, value) :: rest => do
    return (name ++ "=" ++ (← written value)) :: (← writtenAttributes rest)

/-- A wrapper is written as the name of its kind around its value. -/
def writtenWrapped : Wrapped → Except Failure String
  | .actor thing id => .ok (wrappedKind (.actor thing id) ++ "(" ++ Text.quoted id ++ ")")
  | .group name => do return wrappedKind (.group name) ++ "(" ++ (← written name) ++ ")"
  | .boolean value => do return wrappedKind (.boolean value) ++ "(" ++ (← written value) ++ ")"
  | .percentageOfActors p => do
    return wrappedKind (.percentageOfActors p) ++ "(" ++ (← p.value.written) ++ ")"
  | .percentageOfTime p => do
    return wrappedKind (.percentageOfTime p) ++ "(" ++ (← p.value.written) ++ ")"
  | .expression tree => do
    let object ← tree.writtenObject
    let stored :=
      match tree with
      | .constant _ => "\x7b" ++ Text.quoted constantName ++ ": " ++ object ++ "\x7d"
      | _ => object
    return wrappedKind (.expression tree) ++ "(" ++ stored ++ ")"

end

/-- The text of a value: a text itself, the literal form of anything else. -/
def shown : Value → Except Failure String
  | .text s => .ok s
  | value => value.written

end Value

end FeatureGates
