import FeatureGates.Failure
import FeatureGates.Number.Shortest
import FeatureGates.Text.Numeral

/-!
# Numbers

A number is an integer of any size or a floating-point number. The two
kinds are kept apart in storage and text and compared by exact value:
`Number.position?` places both on one line, and only NaN has no place.

Arithmetic that mixes the kinds turns the integer into a floating-point
number first, which fails if it is too large.
-/

namespace FeatureGates

inductive Number where
  | int (n : Int)
  | float (x : Binary64)
deriving DecidableEq

namespace Number

/-! ## Order by exact value -/

def position? : Number → Option Position
  | .int n => some (.at (n * (unitsPerOne : Int)))
  | .float x => x.position?

/-- Less by exact value; NaN is less than nothing, and nothing is less than it. -/
def lt (a b : Number) : Bool :=
  match a.position?, b.position? with
  | some p, some q => p.lt q
  | _, _ => false

def le (a b : Number) : Bool :=
  match a.position?, b.position? with
  | some p, some q => p.le q
  | _, _ => false

/-- The same exact value; NaN equals nothing. -/
def eq (a b : Number) : Bool :=
  match a.position?, b.position? with
  | some p, some q => p = q
  | _, _ => false

def isNaN : Number → Bool
  | .int _ => false
  | .float x => x.isNaN

def isZero (a : Number) : Bool := a.eq (.int 0)

/-! ## Floating-point views -/

/-- The nearest floating-point number; an integer may be too large for one. -/
def toBinary64 : Number → Except Failure Binary64
  | .int n =>
    match Binary64.ofInt? n with
    | some x => .ok x
    | none => .error .intTooLarge
  | .float x => .ok x

/-- Whether the number is NaN, decided in floating point: an integer too large for that fails. -/
def checkNaN (a : Number) : Except Failure Bool := a.toBinary64.map (·.isNaN)

/-- Whether the number is finite, decided in floating point. -/
def checkFinite (a : Number) : Except Failure Bool := a.toBinary64.map (·.isFinite)

/-! ## Arithmetic -/

def mul : Number → Number → Except Failure Number
  | .int m, .int n => .ok (.int (m * n))
  | a, b => do return .float ((← a.toBinary64).mul (← b.toBinary64))

/-- The quotient by a positive whole number, rounded once. -/
def divNat (a : Number) (n : Nat) : Except Failure Binary64 :=
  match a with
  | .int m =>
    match Binary64.ofRatio? m n with
    | some x => .ok x
    | none => .error .quotientTooLarge
  | .float x => .ok (x.divNat n)

/-- The greatest integer that is not above the number. -/
def floor : Number → Except Failure Int
  | .int n => .ok n
  | .float .nan => .error .nanToInt
  | .float (.infinite _) => .error .infiniteToInt
  | .float (.finite s m) => .ok (Int.fdiv (Binary64.signedUnits s m) unitsPerOne)

/-- The text of a number that keeps the two kinds apart. -/
def written : Number → Except Failure String
  | .int n => Text.writeInt n
  | .float x => .ok x.written

end Number

end FeatureGates
