import FeatureGates.Gate.Basic
import FeatureGates.Gate.NameSet
import FeatureGates.Json.Reader

/-!
# The values of a feature's gates

A store keeps raw values under the keys of gates. `GateValues.ofRaw` reads
them: a truth value, two sets of names, an expression in object notation
and two percentages. What cannot be read as the kind in question counts as
its zero: closed, empty, none, nought.

A percentage that a text holds is read off the front of the text; only an
integer with too many digits, there or in a set, is a failure.
-/

namespace FeatureGates

namespace Raw

/-- Only `true`, the number one and the texts `true` and `1` are true. -/
def toBool : Value → Bool
  | .bool b => b
  | .text s => s = "true" || s = "1"
  | .number n => n.eq (.int 1)
  | _ => false

/-- The items of a set, list or tuple. -/
def items? : Value → Option (List Value)
  | .set items => some items
  | .list items => some items
  | .tuple items => some items
  | _ => none

/-- The texts of the items of a set, list or tuple; nothing else has any. -/
def toNames (value : Value) : Except Failure NameSet :=
  match items? value with
  | some items => do return .ofList (← items.mapM Value.shown)
  | none => .ok .empty

/-- The integer at the front of a text, zero if there is none. -/
def leadingInt (cs : List Char) : Except Failure Int :=
  let (negative, unsigned) := Text.signed cs
  match Text.takeDigits unsigned with
  | ([], _) => .ok 0
  | (digits, _) =>
    if Text.digitLimit < digits.length then .error (.numeralTooLong digits.length)
    else
      let value : Int := Text.valueOfDigits 10 digits
      .ok (if negative then -value else value)

/-- The number at the front of a text: a floating-point number if the text
has a point anywhere, an integer if not, zero if there is none. -/
def leadingNumber (s : String) : Except Failure Number :=
  let cs := s.toList.dropWhile Text.isBlank
  if s.toList.contains '.' then
    match Text.DecimalNumeral.scan? cs with
    | some (numeral, _) => .ok (.float numeral.toBinary64)
    | none => .ok (.int 0)
  else (leadingInt cs).map .int

def toNumber : Value → Except Failure Number
  | .number n => .ok n
  | .text s => leadingNumber s
  | _ => .ok (.int 0)

/-- A record that is not empty. -/
def nonEmpty? : Value → Option Entries
  | .record [] => none
  | .record entries => some entries
  | _ => none

/-- A record that is not empty, or the JSON text of one. -/
def toExpression : Value → Option Entries
  | .text s => (Json.read? s).bind nonEmpty?
  | value => nonEmpty? value

end Raw

/-! ## Typed values -/

/-- The values of the six gates of one feature. -/
structure GateValues where
  boolean : Bool
  actors : NameSet
  groups : NameSet
  expression : Option Entries
  percentageOfActors : Number
  percentageOfTime : Number

namespace GateValues

/-- Every gate closed. -/
def closed : GateValues := ⟨false, .empty, .empty, none, .int 0, .int 0⟩

def ofEntries (raw : Entries) : Except Failure GateValues := do
  let value (gate : Gate) := Entries.get raw gate.key
  return {
    boolean := Raw.toBool (value .boolean)
    actors := ← Raw.toNames (value .actor)
    groups := ← Raw.toNames (value .group)
    expression := Raw.toExpression (value .expression)
    percentageOfActors := ← Raw.toNumber (value .percentageOfActors)
    percentageOfTime := ← Raw.toNumber (value .percentageOfTime)
  }

/-- The typed values of a raw record; anything absent or empty is the empty record. -/
def ofRaw (raw : Value) : Except Failure GateValues :=
  match raw with
  | .record entries => ofEntries entries
  | _ => if raw.isPresent then .error (.noMember raw.kind "get") else ofEntries []

def setOfNames (names : NameSet) : Value := .set (names.names.map .text)

/-- The typed value of one gate. -/
def get (values : GateValues) : Gate → Value
  | .boolean => .bool values.boolean
  | .expression => match values.expression with
    | some entries => .record entries
    | none => .null
  | .actor => setOfNames values.actors
  | .group => setOfNames values.groups
  | .percentageOfActors => .number values.percentageOfActors
  | .percentageOfTime => .number values.percentageOfTime

/-- The value under the key of a gate; there are no other keys. -/
def field (values : GateValues) (key : Value) : Except Failure Value := do
  key.requireHashable
  match Gate.order.find? fun gate => (Value.text gate.key).equals key with
  | some gate => return values.get gate
  | none => throw .unknownField

/-- The value of the gate opens it for someone. -/
def opens (values : GateValues) (gate : Gate) : Bool := gate.isEnabled (values.get gate)

end GateValues

/-! ## Comparable form -/

namespace Raw

/-- A raw value in a form in which two stores can be compared: a set of
texts, a record as it is, a scalar as its text. -/
def comparable (value : Value) : Except Failure Value :=
  match value with
  | .set _ | .list _ | .tuple _ => do return GateValues.setOfNames (← toNames value)
  | .bool b => .ok (.text (if b then "true" else "false"))
  | .number n => do return .text (← n.written)
  | _ => .ok value

/-- The entries of a record; anything absent or empty has none. -/
def entriesOf (value : Value) : Except Failure Entries :=
  match value with
  | .record entries => .ok entries
  | _ => if value.isPresent then .error (.noMember value.kind "items") else .ok []

/-- The raw values of all features in comparable form. -/
def comparableAll (source : Value) : Except Failure Value := do
  let features ← (← entriesOf source).mapM fun feature => do
    let gates ← (← entriesOf feature.2).mapM fun gate => do
      return (gate.1, ← comparable gate.2)
    return (feature.1, Value.record gates)
  return .record features

end Raw

end FeatureGates
