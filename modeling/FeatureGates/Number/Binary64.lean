import FeatureGates.Number.Rounding

/-!
# Binary floating-point numbers of 64 bits

A finite number is a sign and a count of *units*, a unit being the least
positive number (`2 ^ -1074`). Every operation takes the exact result as
a quotient of unit counts and rounds it once, to nearest, a tie going to
the even neighbour; a result too large for the format is infinite.

The exact position of a number on the extended line (`Binary64.position?`)
is what all comparisons are made on; only NaN has none.
-/

namespace FeatureGates

/-! Powers of natural numbers are the ones of core. -/

attribute [local instance (2000)] instPowNat

/-- A unit is two to the power of minus this. -/
def unitExponent : Nat := 1074

/-- Units in the number one. -/
def unitsPerOne : Nat := 2 ^ unitExponent

/-- The least count of units that is too large to be finite. -/
def unitLimit : Nat := 2 ^ (1024 + unitExponent)

/-- The size of a finite number: a count of units with at most `precision`
significant binary digits. -/
structure Magnitude where
  units : Nat
  bounded : units < unitLimit
  representable : ∃ m e : Nat, m ≤ 2 ^ precision ∧ units = m * 2 ^ e
deriving DecidableEq

namespace Magnitude

def zero : Magnitude where
  units := 0
  bounded := Nat.two_pow_pos (1024 + unitExponent)
  representable := ⟨0, 0, by decide, rfl⟩

/-- The size nearest to `num / den` units, `none` if it is not finite. -/
def round? (num den : Nat) : Option Magnitude :=
  if bounded : roundToPrecision num den < unitLimit then
    some ⟨roundToPrecision num den, bounded, roundToPrecision_eq num den⟩
  else
    none

theorem units_of_round? {num den : Nat} {m : Magnitude} (h : round? num den = some m) :
    m.units = roundToPrecision num den := by
  unfold round? at h
  split at h
  · cases h; rfl
  · cases h

end Magnitude

/-- A floating-point number. All not-a-number patterns are one. -/
inductive Binary64 where
  | nan
  | infinite (negative : Bool)
  | finite (negative : Bool) (magnitude : Magnitude)
deriving DecidableEq

/-- A point of the number line with its two ends, counted in units. -/
inductive Position where
  | bottom
  | at (units : Int)
  | top
deriving DecidableEq

namespace Position

def lt : Position → Position → Bool
  | .bottom, .bottom => false
  | .bottom, _ => true
  | .at x, .at y => x < y
  | .at _, .top => true
  | _, _ => false

def le (p q : Position) : Bool := !q.lt p

end Position

namespace Binary64

def zero : Binary64 := .finite false .zero

/-! ## Rounding into the format -/

/-- The number nearest to `num / den` units with the given sign. -/
def ofUnits (negative : Bool) (num den : Nat) : Binary64 :=
  match Magnitude.round? num den with
  | some magnitude => .finite negative magnitude
  | none => .infinite negative

/-- The finite number nearest to `num / den`, `none` if that is too large. -/
def ofRatio? (num : Int) (den : Nat) : Option Binary64 :=
  (Magnitude.round? (num.natAbs * unitsPerOne) den).map (.finite (num < 0))

/-- The finite number nearest to an integer, `none` if that is too large. -/
def ofInt? (n : Int) : Option Binary64 := ofRatio? n 1

/-- The number nearest to `coefficient * 10 ^ exponent`.

A positive coefficient below `2 ^ bitLength` and so below
`10 ^ bitLength` leaves nothing above half a unit once the exponent is
under `-324 - bitLength`, and is infinite from exponent 309 on, so no
power of ten larger than the text of the number is ever computed. -/
def ofDecimal (negative : Bool) (coefficient : Nat) (exponent : Int) : Binary64 :=
  if coefficient = 0 then .finite negative .zero
  else if exponent ≥ 309 then .infinite negative
  else if exponent < -324 - (bitLength coefficient : Int) then .finite negative .zero
  else if exponent ≥ 0 then ofUnits negative (coefficient * 10 ^ exponent.toNat * unitsPerOne) 1
  else ofUnits negative (coefficient * unitsPerOne) (10 ^ (-exponent).toNat)

/-! ## Where a number stands -/

/-- The signed count of units of a finite number. -/
def signedUnits (negative : Bool) (magnitude : Magnitude) : Int :=
  if negative then -(magnitude.units : Int) else magnitude.units

/-- The exact place of a number, `none` for NaN. The two zeros stand at one place. -/
def position? : Binary64 → Option Position
  | .nan => none
  | .infinite negative => some (if negative then .bottom else .top)
  | .finite negative magnitude => some (.at (signedUnits negative magnitude))

def isNaN : Binary64 → Bool
  | .nan => true
  | _ => false

def isFinite : Binary64 → Bool
  | .finite _ _ => true
  | _ => false

/-- A whole number. -/
def isIntegral : Binary64 → Bool
  | .finite _ magnitude => magnitude.units % unitsPerOne = 0
  | _ => false

/-- The greatest integer that is not above a finite number. -/
def floor? : Binary64 → Option Int
  | .finite negative magnitude => some (Int.fdiv (signedUnits negative magnitude) unitsPerOne)
  | _ => none

/-! ## Arithmetic -/

def mul : Binary64 → Binary64 → Binary64
  | .nan, _ => .nan
  | _, .nan => .nan
  | .infinite s, .infinite t => .infinite (s != t)
  | .infinite s, .finite t m => if m.units = 0 then .nan else .infinite (s != t)
  | .finite s m, .infinite t => if m.units = 0 then .nan else .infinite (s != t)
  | .finite s m, .finite t k => ofUnits (s != t) (m.units * k.units) unitsPerOne

/-- Division by a positive whole number. -/
def divNat (x : Binary64) (n : Nat) : Binary64 :=
  match x with
  | .finite s m => ofUnits s m.units n
  | _ => x

end Binary64

end FeatureGates
