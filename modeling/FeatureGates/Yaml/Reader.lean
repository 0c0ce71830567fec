import FeatureGates.Value.Equality
import FeatureGates.Yaml.Scalar
import FeatureGates.Yaml.Tree

/-!
# Reading YAML

`Yaml.read` gives the value of a text that is one document: a mapping as a
record, in which of two equal keys the later value counts, a sequence as a
list. A key has to be a scalar.
-/

namespace FeatureGates.Yaml

namespace Tree

mutual

def toValue : Tree → Except Failure Value
  | .scalar text isPlain => if isPlain then plainValue text else .ok (.text text)
  | .sequence items => do return .list (← toValues items)
  | .mapping entries => do return .record (← toEntries [] entries)

def toValues : List Tree → Except Failure (List Value)
  | [] => .ok []
  | item :: rest => do return (← toValue item) :: (← toValues rest)

/-- Puts the entries of a mapping into a record. -/
def toEntries (record : Entries) : List (Tree × Tree) → Except Failure Entries
  | [] => .ok record
  | (key, value) :: rest => do
    let key ← toValue key
    if key.unhashable?.isSome then throw (.config .unparsable)
    toEntries (record.put key (← toValue value)) rest

end

end Tree

/-- The value of a text. -/
def read (text : String) : Except Failure Value :=
  match (tokens? text.toList).bind Tree.read? with
  | some tree => tree.toValue
  | none => .error (.config .unparsable)

end FeatureGates.Yaml
