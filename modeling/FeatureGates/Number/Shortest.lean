import FeatureGates.Number.Binary64

/-!
# The shortest decimal that reads back

`Magnitude.shortest` is the decimal with the fewest significant digits
that reads back as the given finite size; of two with that many digits
the nearer one, a tie going to the even digit.

It tries 1, 2, … 17 digits. On each grid only the two neighbours of the
size can read back. Seventeen digits always suffice; behind them stands
the exact decimal expansion, so that what is returned reads back without
an appeal to that bound.

`Binary64.written` lays the digits out: positional notation while the
point stands between -3 and 16, an exponent of at least two digits
otherwise.
-/

namespace FeatureGates

/-! Powers of natural numbers are the ones of core. -/

attribute [local instance (2000)] instPowNat

/-- The decimal number `coefficient * 10 ^ exponent`. -/
structure Decimal where
  coefficient : Nat
  exponent : Int
deriving DecidableEq

namespace Decimal

/-- The decimal digits from the first to the last that is not zero. -/
def digits (d : Decimal) : List Char :=
  ((Nat.toDigits 10 d.coefficient).reverse.dropWhile (· = '0')).reverse

/-- How many digits stand before the decimal point; it is not positive if
zeros follow the point. -/
def point (d : Decimal) : Int :=
  ((Nat.toDigits 10 d.coefficient).length : Int) + d.exponent

end Decimal

namespace Magnitude

/-- Reading the decimal gives this size. -/
def isReadFrom (m : Magnitude) (d : Decimal) : Bool :=
  Binary64.ofDecimal false d.coefficient d.exponent = .finite false m

/-- The exact decimal expansion. -/
def exactDecimal (m : Magnitude) : Decimal := ⟨m.units * 5 ^ unitExponent, -(unitExponent : Int)⟩

/-- The size as a quotient counted in steps of `10 ^ exponent`. -/
def steps (m : Magnitude) (exponent : Int) : Nat × Nat :=
  if exponent ≥ 0 then (m.units, unitsPerOne * 10 ^ exponent.toNat)
  else (m.units * 10 ^ (-exponent).toNat, unitsPerOne)

/-- The size is at least `10 ^ exponent`. -/
def reaches (m : Magnitude) (exponent : Int) : Bool :=
  (m.steps exponent).2 ≤ (m.steps exponent).1

/-- The two neighbours of the size among the multiples of `10 ^ exponent`,
the nearer one first and of two equally near ones the even one. -/
def neighbours (m : Magnitude) (exponent : Int) : List Decimal :=
  let (num, den) := m.steps exponent
  let below := num / den
  let rest := num % den
  let upFirst := den < 2 * rest || (den == 2 * rest && below % 2 == 1)
  if upFirst then [⟨below + 1, exponent⟩, ⟨below, exponent⟩]
  else [⟨below, exponent⟩, ⟨below + 1, exponent⟩]

/-- The first exponent from `exponent` on whose power of ten is above the
size, looking at `fuel` of them. -/
def firstAbove (m : Magnitude) (exponent : Int) : Nat → Int
  | 0 => exponent
  | fuel + 1 => if m.reaches exponent then m.firstAbove (exponent + 1) fuel else exponent

/-- The least exponent whose power of ten is above the size. The search
starts from an estimate that is never too high: `30103 / 100000` is just
above the decimal logarithm of two, and one is taken off. -/
def decimalPlace (m : Magnitude) : Int :=
  let binaryPlace : Int := (bitLength m.units : Int) - 1075
  m.firstAbove (Int.fdiv (binaryPlace * 30103) 100000 - 1) 400

/-- The shortest decimal that reads back. -/
def shortest (m : Magnitude) : Decimal :=
  if m.units = 0 then ⟨0, 0⟩
  else
    let place := m.decimalPlace
    let tries := (List.range 17).flatMap fun (n : Nat) => m.neighbours (place - 1 - (n : Int))
    (tries.find? m.isReadFrom).getD m.exactDecimal

end Magnitude

/-! ## Laying the digits out -/

/-- Which points are written without an exponent, and the least width of one. -/
structure DecimalStyle where
  leastPoint : Int
  greatestPoint : Int
  exponentWidth : Nat

/-- Sizes from `0.0001` up to but not including `1e16` have no exponent; one has at least two digits. -/
def plainStyle : DecimalStyle := ⟨-3, 16, 2⟩

namespace Decimal

def zeros (n : Nat) : List Char := List.replicate n '0'

/-- Positional text; a whole number ends in `.0`. -/
def positional (digits : List Char) (point : Int) : List Char :=
  if point ≤ 0 then '0' :: '.' :: zeros (-point).toNat ++ digits
  else if digits.length ≤ point.toNat then digits ++ zeros (point.toNat - digits.length) ++ ['.', '0']
  else digits.take point.toNat ++ '.' :: digits.drop point.toNat

/-- Text with one digit before the point and an exponent with its sign. -/
def scientific (width : Nat) (digits : List Char) (point : Int) : List Char :=
  let power := Nat.toDigits 10 (point - 1).natAbs
  let fraction := if digits.length ≤ 1 then [] else '.' :: digits.drop 1
  digits.take 1 ++ fraction ++ 'e' :: (if point < 1 then '-' else '+')
    :: zeros (width - power.length) ++ power

def layout (style : DecimalStyle) (d : Decimal) : List Char :=
  if style.leastPoint ≤ d.point ∧ d.point ≤ style.greatestPoint then positional d.digits d.point
  else scientific style.exponentWidth d.digits d.point

end Decimal

/-- The shortest text of a number that reads back. -/
def Binary64.written : Binary64 → String
  | .nan => "nan"
  | .infinite negative => if negative then "-inf" else "inf"
  | .finite negative m =>
    let text := m.shortest.layout plainStyle
    String.ofList (if negative then '-' :: text else text)

end FeatureGates
