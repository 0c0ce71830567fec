import FeatureGates.Number.Basic
import FeatureGates.Text.Quoted

/-!
# Scalars

The values without parts: null, truth values, numbers and texts. They are
what an expression tree holds at its leaves.
-/

namespace FeatureGates

inductive Scalar where
  | null
  | bool (b : Bool)
  | number (n : Number)
  | text (s : String)
deriving DecidableEq

namespace Scalar

/-- The literal form of a scalar. -/
def written : Scalar → Except Failure String
  | .null => .ok "None"
  | .bool true => .ok "True"
  | .bool false => .ok "False"
  | .number n => n.written
  | .text s => .ok (Text.quoted s)

/-- The name of a scalar's kind. -/
def kind : Scalar → String
  | .null => "NoneType"
  | .bool _ => "bool"
  | .number (.int _) => "int"
  | .number (.float _) => "float"
  | .text _ => "str"

/-- Equality of kind and value: truth values, numbers and texts each equal
only their own kind, an integer equals a floating-point number of the same
exact value, and NaN equals nothing. -/
def strictEquals : Scalar → Scalar → Bool
  | .null, .null => true
  | .bool a, .bool b => a = b
  | .number a, .number b => a.eq b
  | .text a, .text b => a = b
  | _, _ => false

/-- The number a scalar counts as where truth values count as zero and one. -/
def asNumber? : Scalar → Option Number
  | .bool b => some (.int (if b then 1 else 0))
  | .number n => some n
  | _ => none

/-- Equality that counts truth values as zero and one. -/
def equals (a b : Scalar) : Bool :=
  match a.asNumber?, b.asNumber? with
  | some m, some n => m.eq n
  | _, _ => a.strictEquals b

end Scalar

/-- Items between brackets, separated by commas. -/
def bracketed (left right : String) (items : List String) : String :=
  left ++ ", ".intercalate items ++ right

end FeatureGates
