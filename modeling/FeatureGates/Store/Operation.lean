import FeatureGates.Gate.Values
import FeatureGates.Table

/-!
# Operations on stores

Four reads and five writes. A read says by its type what it is answered
with (`Read`); every write is answered with a truth value. Both know their
name and the details that reports about them carry, so whoever stands in
front of a store can treat all of them alike.
-/

namespace FeatureGates

/-- Where a value belongs among the gates of a feature: one of the six, or
a place under some other name, which no store can keep. -/
inductive Slot where
  | gate (gate : Gate)
  | foreign (name : String)
deriving DecidableEq

namespace Slot

def name : Slot → String
  | .gate g => g.name
  | .foreign n => n

def key : Slot → String
  | .gate g => g.key
  | .foreign n => n

def dataType? : Slot → Option DataType
  | .gate g => some g.dataType
  | .foreign _ => none

end Slot

/-! ## Reads -/

/-- The raw values of several features. -/
abbrev RawFeatures := Table Entries

inductive Read : Type → Type where
  | features : Read NameSet
  | get (feature : String) : Read Entries
  | getMulti (features : List String) : Read RawFeatures
  | getAll : Read RawFeatures

namespace Read

variable {α : Type}

def name : Read α → String
  | .features => "features"
  | .get _ => "get"
  | .getMulti _ => "get_multi"
  | .getAll => "get_all"

/-- The features that a read names. -/
def subjects : Read α → List String
  | .get feature => [feature]
  | .getMulti fs => fs
  | _ => []

def details : Read α → List (String × Value)
  | .get feature => [("feature_name", .text feature)]
  | .getMulti fs => [("feature_names", .list (fs.map .text))]
  | _ => []

/-- The answer of a store that holds nothing. -/
def nothing : Read α → α
  | .features => .empty
  | .get _ => []
  | .getMulti _ => .empty
  | .getAll => .empty

def shownFeatures (raw : RawFeatures) : Value :=
  .ofFields (raw.rows.map fun row => (row.1, .record row.2))

/-- An answer as a value. -/
def shown : Read α → α → Value
  | .features, names => GateValues.setOfNames names
  | .get _, raw => .record raw
  | .getMulti _, raw => shownFeatures raw
  | .getAll, raw => shownFeatures raw

end Read

/-! ## Writes -/

inductive Write where
  | add
  | remove
  | clear
  | enable (slot : Slot) (thing : Value)
  | disable (slot : Slot) (thing : Value)

namespace Write

def name : Write → String
  | .add => "add"
  | .remove => "remove"
  | .clear => "clear"
  | .enable _ _ => "enable"
  | .disable _ _ => "disable"

def slot? : Write → Option Slot
  | .enable s _ => some s
  | .disable s _ => some s
  | _ => none

/-- The keys that a store sees a write come with. -/
def keys (feature : String) (write : Write) : List String :=
  feature :: (write.slot?.map Slot.key).toList

def details (feature : String) (write : Write) : List (String × Value) :=
  ("feature_name", .text feature) ::
    (write.slot?.map fun slot => ("gate_name", Value.text slot.key)).toList

end Write

end FeatureGates
