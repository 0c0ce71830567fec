import FeatureGates.Value.Equality

/-!
# Merging settings

`deepMerge base upper` lays one record over another: where both hold a
record under a key the two are merged in turn, everywhere else the value of
the upper one counts, lists included. The keys of the lower one come first.

The lower one may also be a list of pairs, or anything else that a record
can be made of.
-/

namespace FeatureGates

namespace Value

mutual

/-- What a value makes of the one under it. -/
def laidOver (under : Option Value) : Value → Value
  | .record upper =>
    match under with
    | some (.record base) => .record (mergeEntries base upper)
    | _ => .record upper
  | upper => upper

/-- Lays entries over a record. -/
def mergeEntries (base : Entries) : Entries → Entries
  | [] => base
  | (key, value) :: rest =>
    mergeEntries (base.put key (laidOver (base.find? key) value)) rest

end

/-! ## What records can be made of -/

/-- What there is to go through in a value: items, keys or characters. -/
def elements? : Value → Option (List Value)
  | .list items => some items
  | .tuple items => some items
  | .set items => some items
  | .record entries => some (entries.map (·.1))
  | .text s => some (s.toList.map fun c => .text (String.singleton c))
  | _ => none

/-- A value of two elements as a pair of key and value. -/
def asPair (value : Value) : Except Failure (Value × Value) :=
  match value.elements? with
  | some [key, item] => do
    key.requireHashable
    return (key, item)
  | some _ => .error .pairOfWrongSize
  | none => .error .notPairs

def putPairs (entries : Entries) : List Value → Except Failure Entries
  | [] => .ok entries
  | value :: rest => do
    let (key, item) ← asPair value
    putPairs (entries.put key item) rest

/-- A record as it is, or one made of pairs. -/
def asEntries : Value → Except Failure Entries
  | .record entries => .ok entries
  | value =>
    match value.elements? with
    | some pairs => putPairs [] pairs
    | none => .error .notPairs

/-- Lays a record over what a record can be made of. -/
def deepMerge (base upper : Value) : Except Failure Value := do
  let entries ← base.asEntries
  match upper with
  | .record upperEntries => return .record (mergeEntries entries upperEntries)
  | _ => throw (.noMember upper.kind "items")

end Value

end FeatureGates
