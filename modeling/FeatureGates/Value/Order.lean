import FeatureGates.Value.Equality

/-!
# Order of keys

Texts are ordered by code point, numbers by exact value with truth values
counting as zero and one. Any other two values have no order, and sorting
them fails with the kinds of the first two neighbours that have none.
-/

namespace FeatureGates

namespace Value

def lessThan (a b : Value) : Except Failure Bool :=
  match a, b with
  | .text s, .text t => .ok (s < t)
  | .scalar x, .scalar y =>
    match x.asNumber?, y.asNumber? with
    | some m, some n => .ok (m.lt n)
    | _, _ => .error (.unordered a.kind b.kind)
  | _, _ => .error (.unordered a.kind b.kind)

/-- Every item has an order with the one before it. -/
def checkOrdered : List Value → Except Failure Unit
  | first :: second :: rest => do
    let _ ← lessThan second first
    checkOrdered (second :: rest)
  | _ => .ok ()

/-- Not greater, where both have an order. -/
def notGreater (a b : Value) : Bool :=
  match lessThan b a with
  | .ok greater => !greater
  | .error _ => true

/-- The items in ascending order, equal ones in the order they came in. -/
def sorted (items : List Value) : Except Failure (List Value) := do
  checkOrdered items
  return items.mergeSort notGreater

end Value

end FeatureGates
