import FeatureGates.Number.Basic

/-!
# Percentages

A percentage is a number from 0 to 100; the type carries the bound.
-/

namespace FeatureGates

/-- The number lies from 0 to 100. NaN does not. -/
def Number.isPercentage (n : Number) : Bool := Number.le (.int 0) n && n.le (.int 100)

structure Percentage where
  value : Number
  inRange : value.isPercentage = true
deriving DecidableEq

namespace Percentage

def zero : Percentage := ⟨.int 0, by decide +kernel⟩

/-- Accepts a number as a percentage. Whether it is NaN is asked first, and
an integer too large for a floating-point number fails there. -/
def ofNumber (n : Number) : Except Failure Percentage := do
  let isNaN ← n.checkNaN
  if h : isNaN = false ∧ n.isPercentage = true then return ⟨n, h.2⟩
  else throw (.percentageOutOfRange (← n.written))

end Percentage

end FeatureGates
