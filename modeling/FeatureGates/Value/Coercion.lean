import FeatureGates.Text.Blank
import FeatureGates.Value.Written

/-!
# Coercions

How expressions read values as truth values, numbers and texts. Only
null, `false`, zero, NaN and the empty text are false. A text is a number
if all of it, blanks at its ends apart, is empty, a signed `Infinity`, a
numeral with a radix mark or a decimal numeral (`readNumber`); a sequence
is read through its text.
-/

namespace FeatureGates

/-! Powers of natural numbers are the ones of core. -/

attribute [local instance (2000)] instPowNat

/-! ## Numbers and texts -/

namespace Text

/-- The radix that a numeral beginning with these characters is read in. -/
def radixOf? : List Char → Option Nat
  | '0' :: mark :: _ =>
    match mark.toLower with
    | 'x' => some 16
    | 'o' => some 8
    | 'b' => some 2
    | _ => none
  | _ => none

/-- The text is a signed `Infinity`; gives whether it is negative. -/
def infinity? (cs : List Char) : Option Bool :=
  let (negative, unsigned) := signed cs
  if unsigned = "Infinity".toList then some negative else none

/-- The number that a text denotes, NaN if it is no numeral. A decimal
numeral that is an integer of admissible length stays one. -/
def readNumber (s : String) : Number :=
  let cs := trim isBlank s.toList
  if cs.isEmpty then .int 0
  else
    match infinity? cs with
    | some negative => .float (.infinite negative)
    | none =>
      match radixOf? cs with
      | some radix =>
        match readInt radix (cs.drop 2) with
        | .ok n => .int n
        | .error _ => .float .nan
      | none =>
        match readDecimal? cs with
        | none => .float .nan
        | some x =>
          match readInt 10 cs with
          | .ok n => .int n
          | .error _ => .float x

end Text

/-- Whole numbers of at most this many digits are written as integers. -/
def Number.wholeDigits : Nat := 21

/-- The text of a number. -/
def Number.toText : Number → Except Failure String
  | .int n => Text.writeInt n
  | .float .nan => .ok "NaN"
  | .float (.infinite negative) => .ok (if negative then "-Infinity" else "Infinity")
  | .float (.finite negative m) =>
    if m.units % unitsPerOne = 0 ∧ m.units < 10 ^ Number.wholeDigits * unitsPerOne then
      let whole : Int := m.units / unitsPerOne
      .ok (toString (if negative then -whole else whole))
    else .ok (Binary64.finite negative m).written

/-! ## Values -/

namespace Value

def isNumber : Value → Bool
  | .number _ => true
  | _ => false

/-- Everything is true but null, `false`, zero, NaN and the empty text. An
integer too large for a floating-point number fails. -/
def truthy : Value → Except Failure Bool
  | .null => .ok false
  | .bool b => .ok b
  | .number n => if n.isZero then .ok false else n.checkNaN.map (!·)
  | .text s => .ok (!s.isEmpty)
  | _ => .ok true

mutual

/-- The text a value counts as: null is empty, a sequence is its items
with commas between them. -/
def toText : Value → Except Failure String
  | .null => .ok ""
  | .bool b => .ok (if b then "true" else "false")
  | .number n => n.toText
  | .text s => .ok s
  | .list items => do return ",".intercalate (← toTexts items)
  | .tuple items => do return ",".intercalate (← toTexts items)
  | value => value.written

def toTexts : List Value → Except Failure (List String)
  | [] => .ok []
  | item :: rest => do return (← toText item) :: (← toTexts rest)

end

/-- The number a value counts as, NaN if none. -/
def toNumber : Value → Except Failure Number
  | .null => .ok (.int 0)
  | .bool b => .ok (.int (if b then 1 else 0))
  | .number n => .ok n
  | .text s => .ok (Text.readNumber s)
  | .list items => do return Text.readNumber (← (Value.list items).toText)
  | .tuple items => do return Text.readNumber (← (Value.tuple items).toText)
  | _ => .ok (.float .nan)

end Value

/-! ## Strict equality -/

/-- Where a value came from: made for this use, or found under a property.
Two operands from one property are one object. -/
inductive Origin where
  | fresh
  | property (key : String)
deriving DecidableEq

/-- A value in the hands of an operator. -/
structure Operand where
  value : Value
  origin : Origin

namespace Operand

def fresh (value : Value) : Operand := ⟨value, .fresh⟩

/-- Both operands are one object. -/
def isSame (a b : Operand) : Bool :=
  match a.origin, b.origin with
  | .property j, .property k => j = k
  | _, _ => false

/-- Scalars are equal by kind and value, anything else only to itself. -/
def strictEquals (a b : Operand) : Bool :=
  match a.value, b.value with
  | .scalar x, .scalar y => x.strictEquals y
  | .scalar _, _ => false
  | _, .scalar _ => false
  | _, _ => a.isSame b

end Operand

end FeatureGates
