/-!
# Rounding a quotient of natural numbers

Two roundings of `num / den`: to the nearest natural number, and to the
nearest natural number whose binary form has at most 53 significant
digits (`roundToPrecision`). In both a tie goes to the even neighbour.

The second one is what makes a floating-point number: counted in
multiples of the least positive number, every finite result is
`m * 2 ^ e` with `m ≤ 2 ^ 53` (`roundToPrecision_eq`).
-/

namespace FeatureGates

/-! Powers of natural numbers are the ones of core. -/

attribute [local instance (2000)] instPowNat

/-- Number of binary digits of `n`; zero has none. -/
def bitLength (n : Nat) : Nat :=
  if n = 0 then 0 else n.log2 + 1

theorem lt_two_pow_bitLength (n : Nat) : n < 2 ^ bitLength n := by
  unfold bitLength
  split
  · omega
  · exact Nat.lt_log2_self

/-- The natural number nearest to `num / den`; a tie goes to the even one. -/
def roundHalfEven (num den : Nat) : Nat :=
  let quotient := num / den
  let rest := num % den
  if 2 * rest < den then quotient
  else if den < 2 * rest then quotient + 1
  else quotient + quotient % 2

theorem roundHalfEven_le (num den : Nat) : roundHalfEven num den ≤ num / den + 1 := by
  simp only [roundHalfEven]
  split
  · omega
  · split <;> omega

theorem roundHalfEven_one (n : Nat) : roundHalfEven n 1 = n := by
  simp [roundHalfEven, Nat.mod_one]

/-- Significant binary digits of a floating-point number. -/
def precision : Nat := 53

/-- Binary places that have to be given up so that `n` keeps `precision` digits. -/
def excessBits (n : Nat) : Nat := bitLength n - precision

/-- The nearest number to `num / den` that has at most `precision`
significant binary digits, a tie going to the even neighbour. -/
def roundToPrecision (num den : Nat) : Nat :=
  let excess := excessBits (num / den)
  roundHalfEven num (den * 2 ^ excess) * 2 ^ excess

/-- What is left of a quotient has at most `precision` digits, but for a power of two. -/
theorem roundHalfEven_le_two_pow (num den : Nat) :
    roundHalfEven num (den * 2 ^ excessBits (num / den)) ≤ 2 ^ precision := by
  refine Nat.le_trans (roundHalfEven_le _ _) ?_
  have bound : num / (den * 2 ^ excessBits (num / den)) < 2 ^ precision := by
    rw [← Nat.div_div_eq_div_mul]
    apply Nat.div_lt_of_lt_mul
    rw [← Nat.pow_add]
    refine Nat.lt_of_lt_of_le (lt_two_pow_bitLength _) (Nat.pow_le_pow_right (by decide) ?_)
    unfold excessBits
    omega
  omega

theorem roundToPrecision_eq (num den : Nat) :
    ∃ m e : Nat, m ≤ 2 ^ precision ∧ roundToPrecision num den = m * 2 ^ e :=
  ⟨_, excessBits (num / den), roundHalfEven_le_two_pow num den, rfl⟩

end FeatureGates
