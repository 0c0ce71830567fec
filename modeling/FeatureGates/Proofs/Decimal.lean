import FeatureGates.Number.Shortest
import FeatureGates.Proofs.Rounding

/-!
# Decimals and the numbers they denote

`Binary64.ofDecimal` takes two shortcuts, for decimals that are too large
and for decimals that are too small. Neither changes the result
(`Binary64.ofDecimal_eq`), so a decimal may be written with any number of
trailing zeros (`Binary64.ofDecimal_shift`).

`Magnitude.shortest` reads back (`Magnitude.ofDecimal_shortest`): each try
is kept only if it does, and the exact expansion behind them does too.
-/

namespace FeatureGates

/-! Powers of natural numbers are the ones of core. -/

attribute [local instance (2000)] instPowNat

namespace Magnitude

theorem eq_of_units {m n : Magnitude} (h : m.units = n.units) : m = n := by
  cases m
  cases n
  simp only [mk.injEq]
  exact h

theorem round?_eq_none {num den : Nat} (h : unitLimit ≤ roundToPrecision num den) :
    round? num den = none := by
  unfold round?
  rw [dif_neg (by omega)]

theorem round?_eq_some {num den : Nat} {m : Magnitude} (h : roundToPrecision num den = m.units) :
    round? num den = some m := by
  unfold round?
  rw [dif_pos (h ▸ m.bounded)]
  exact congrArg some (eq_of_units h)

theorem round?_scale (num den : Nat) {k : Nat} (hk : 0 < k) :
    round? (num * k) (den * k) = round? num den := by
  simp only [round?, roundToPrecision_scale num den hk]

/-- A size is the rounding of its own count of units. -/
theorem round?_units (m : Magnitude) : round? m.units 1 = some m :=
  round?_eq_some (roundToPrecision_of_representable m.representable)

end Magnitude

namespace Binary64

/-! ## Rounding into the format -/

theorem ofUnits_eq (s : Bool) (num den : Nat) :
    ofUnits s num den =
      ((Magnitude.round? num den).map (Binary64.finite s)).getD (.infinite s) := by
  unfold ofUnits
  split
  · rename_i m hm
    rw [hm, Option.map_some, Option.getD_some]
  · rename_i none
    rw [none, Option.map_none, Option.getD_none]

theorem ofUnits_of_round? {s : Bool} {num den : Nat} {m : Magnitude}
    (h : Magnitude.round? num den = some m) : ofUnits s num den = .finite s m := by
  rw [ofUnits_eq, h, Option.map_some, Option.getD_some]

theorem ofUnits_scale (s : Bool) (num den : Nat) {k : Nat} (hk : 0 < k) :
    ofUnits s (num * k) (den * k) = ofUnits s num den := by
  rw [ofUnits_eq, ofUnits_eq, Magnitude.round?_scale num den hk]

/-- Rounding never gives NaN. -/
theorem isNaN_ofUnits (s : Bool) (num den : Nat) : (ofUnits s num den).isNaN = false := by
  rw [ofUnits_eq]
  cases Magnitude.round? num den <;> rfl

/-- Less than half a unit is nothing. -/
theorem ofUnits_of_small {s : Bool} {num den : Nat} (h : 2 * num < den) :
    ofUnits s num den = .finite s .zero :=
  ofUnits_of_round? (Magnitude.round?_eq_some (roundToPrecision_eq_zero h))

/-- What reaches the limit of the format is infinite. -/
theorem ofUnits_of_large {s : Bool} {num den : Nat} (h : unitLimit ≤ num / den) :
    ofUnits s num den = .infinite s := by
  rw [ofUnits_eq, Magnitude.round?_eq_none (two_pow_le_roundToPrecision h), Option.map_none,
    Option.getD_none]

theorem ofUnits_zero (s : Bool) {den : Nat} (h : 0 < den) :
    ofUnits s 0 den = .finite s .zero :=
  ofUnits_of_small (by omega)

/-- The sign takes no part in the rounding. -/
theorem ofUnits_sign {s : Bool} (t : Bool) {num den : Nat} {m : Magnitude}
    (h : ofUnits s num den = .finite s m) : ofUnits t num den = .finite t m := by
  rw [ofUnits_eq] at h
  cases hr : Magnitude.round? num den with
  | none =>
    rw [hr, Option.map_none, Option.getD_none] at h
    cases h
  | some k =>
    rw [hr, Option.map_some, Option.getD_some] at h
    cases h
    exact ofUnits_of_round? hr

theorem units_of_ofUnits {s : Bool} {num den : Nat} {m : Magnitude}
    (h : ofUnits s num den = .finite s m) : m.units = roundToPrecision num den := by
  rw [ofUnits_eq] at h
  cases rounded : Magnitude.round? num den with
  | none =>
    rw [rounded, Option.map_none, Option.getD_none] at h
    cases h
  | some k =>
    rw [rounded, Option.map_some, Option.getD_some] at h
    cases h
    exact Magnitude.units_of_round? rounded

/-! ## Decimals -/

theorem ten_pow_le {j k : Nat} (h : j ≤ k) : 10 ^ j ≤ 10 ^ k := Nat.pow_le_pow_right (by decide) h

theorem ten_pow_pos (k : Nat) : 0 < 10 ^ k := Nat.pow_pos (by decide)

theorem two_pow_add_le {j n : Nat} (k : Nat) (h : 2 ^ j ≤ n) : 2 ^ (j + k) ≤ n * 2 ^ k := by
  rw [Nat.pow_add]
  exact Nat.mul_le_mul_right _ h

theorem twice_mul_lt {c u p q : Nat} (hu : 2 * u ≤ p) (hc : c < q) (hp : 0 < p) :
    2 * (c * u) < p * q := by
  calc 2 * (c * u) = 2 * u * c := by rw [Nat.mul_comm c, Nat.mul_assoc]
    _ ≤ p * c := Nat.mul_le_mul_right c hu
    _ < p * q := Nat.mul_lt_mul_of_pos_left hc hp

/-- Ten to the power of 309 is too large, however few its digits are. -/
theorem unitLimit_le (c e : Nat) (hc : 0 < c) (he : 309 ≤ e) :
    unitLimit ≤ c * 10 ^ e * unitsPerOne := by
  have step : (2 : Nat) ^ 1024 ≤ 10 ^ 309 := by decide +kernel
  have more : 10 ^ 309 ≤ 10 ^ e := @ten_pow_le 309 e he
  have whole : 10 ^ e ≤ c * 10 ^ e := Nat.le_mul_of_pos_left _ hc
  exact two_pow_add_le unitExponent (Nat.le_trans step (Nat.le_trans more whole))

/-- A coefficient of so few digits leaves less than half a unit. -/
theorem twice_units_lt (c k : Nat) (hk : 324 + bitLength c < k) :
    2 * (c * unitsPerOne) < 10 ^ k := by
  have unit : 2 * unitsPerOne ≤ 10 ^ 324 := by decide +kernel
  have digits : c < 10 ^ bitLength c :=
    Nat.lt_of_lt_of_le (lt_two_pow_bitLength c) (Nat.pow_le_pow_left (by decide) _)
  have more := @ten_pow_le (324 + bitLength c) k (by omega)
  rw [Nat.pow_add] at more
  exact Nat.lt_of_lt_of_le (twice_mul_lt unit digits (ten_pow_pos 324)) more

/-- The number nearest to a decimal, without the shortcuts: of the two
powers of ten one is always one. -/
theorem ofDecimal_eq (s : Bool) (c : Nat) (e : Int) :
    ofDecimal s c e = ofUnits s (c * 10 ^ e.toNat * unitsPerOne) (10 ^ (-e).toNat) := by
  have pos := ten_pow_pos (-e).toNat
  unfold ofDecimal
  by_cases zero : c = 0
  · rw [if_pos zero, zero, Nat.zero_mul, Nat.zero_mul, ofUnits_zero s pos]
  rw [if_neg zero]
  by_cases large : e ≥ 309
  · have none : (-e).toNat = 0 := by omega
    rw [if_pos large, none]
    refine (ofUnits_of_large ?_).symm
    rw [Nat.pow_zero, Nat.div_one]
    exact unitLimit_le c _ (by omega) (by omega)
  rw [if_neg large]
  by_cases small : e < -324 - (bitLength c : Int)
  · have none : e.toNat = 0 := by omega
    rw [if_pos small, none, Nat.pow_zero, Nat.mul_one]
    exact (ofUnits_of_small (twice_units_lt c _ (by omega))).symm
  rw [if_neg small]
  by_cases whole : e ≥ 0
  · have none : (-e).toNat = 0 := by omega
    rw [if_pos whole, none, Nat.pow_zero]
  · have none : e.toNat = 0 := by omega
    rw [if_neg whole, none, Nat.pow_zero, Nat.mul_one]

theorem isNaN_ofDecimal (s : Bool) (c : Nat) (e : Int) : (ofDecimal s c e).isNaN = false := by
  rw [ofDecimal_eq]
  exact isNaN_ofUnits s _ _

/-- Zeros at the end of the coefficient count as part of the exponent. -/
theorem ofDecimal_shift (s : Bool) (c k : Nat) (e : Int) :
    ofDecimal s (c * 10 ^ k) e = ofDecimal s c (e + k) := by
  rw [ofDecimal_eq, ofDecimal_eq]
  -- both quotients are the one over the larger powers of ten, cut down
  obtain ⟨t, up, down⟩ : ∃ t, k + e.toNat = (e + k).toNat + t ∧ (-e).toNat = (-(e + k)).toNat + t :=
    ⟨k + e.toNat - (e + k).toNat, by omega, by omega⟩
  have num : c * 10 ^ k * 10 ^ e.toNat * unitsPerOne
      = c * 10 ^ (e + k).toNat * unitsPerOne * 10 ^ t := by
    rw [Nat.mul_assoc c, ← Nat.pow_add, up, Nat.pow_add, ← Nat.mul_assoc, Nat.mul_right_comm]
  rw [num, down, Nat.pow_add, ofUnits_scale _ _ _ (ten_pow_pos t)]

/-- The number nearest to a decimal, over any power of ten that makes it a quotient. -/
theorem ofDecimal_over (s : Bool) (c : Nat) {e : Int} {k : Nat} (h : 0 ≤ e + k) :
    ofDecimal s c e = ofUnits s (c * 10 ^ (e + k).toNat * unitsPerOne) (10 ^ k) := by
  have shifted := ofDecimal_shift s c (e + k).toNat (-k)
  have exponent : -(k : Int) + ((e + k).toNat : Int) = e := by omega
  have up : (-(k : Int)).toNat = 0 := by omega
  have down : (-(-(k : Int))).toNat = k := by omega
  rw [exponent] at shifted
  rw [← shifted, ofDecimal_eq, up, down, Nat.pow_zero, Nat.mul_one]

/-- The larger of two decimals is not nearer to the smaller number. -/
theorem units_mono_of_ofDecimal {c c' k : Nat} {e e' : Int} {m n : Magnitude}
    (hm : ofDecimal false c e = .finite false m) (hn : ofDecimal false c' e' = .finite false n)
    (he : 0 ≤ e + k) (he' : 0 ≤ e' + k)
    (h : c * 10 ^ (e + k).toNat ≤ c' * 10 ^ (e' + k).toNat) : m.units ≤ n.units := by
  rw [ofDecimal_over false c he] at hm
  rw [ofDecimal_over false c' he'] at hn
  rw [units_of_ofUnits hm, units_of_ofUnits hn]
  exact roundToPrecision_mono _ (Nat.mul_le_mul_right _ h)

theorem ofDecimal_sign {s : Bool} (t : Bool) {c : Nat} {e : Int} {m : Magnitude}
    (h : ofDecimal s c e = .finite s m) : ofDecimal t c e = .finite t m := by
  rw [ofDecimal_eq] at h ⊢
  exact ofUnits_sign t h

end Binary64

/-! ## The shortest decimal -/

namespace Magnitude

theorem five_pow_mul_two_pow (k : Nat) : 5 ^ k * 2 ^ k = 10 ^ k := by
  rw [← Nat.mul_pow]

/-- The exact expansion is the size itself, over a power of ten. -/
theorem ofUnits_exactDecimal (m : Magnitude) (s : Bool) :
    Binary64.ofUnits s (m.exactDecimal.coefficient * unitsPerOne) (10 ^ unitExponent)
      = .finite s m := by
  have ten : 5 ^ unitExponent * unitsPerOne = 10 ^ unitExponent := by
    unfold unitsPerOne
    exact five_pow_mul_two_pow unitExponent
  have scaled := Binary64.ofUnits_scale s m.units 1 (Binary64.ten_pow_pos unitExponent)
  have num : m.exactDecimal.coefficient * unitsPerOne = m.units * 10 ^ unitExponent := by
    show m.units * 5 ^ unitExponent * unitsPerOne = _
    rw [Nat.mul_assoc, ten]
  rw [num, ← Nat.one_mul (10 ^ unitExponent), ← Nat.mul_assoc, Nat.mul_one, scaled]
  exact Binary64.ofUnits_of_round? m.round?_units

theorem isReadFrom_exactDecimal (m : Magnitude) : m.isReadFrom m.exactDecimal = true := by
  have up : m.exactDecimal.exponent.toNat = 0 := by
    show (-(unitExponent : Int)).toNat = 0
    omega
  have down : (-m.exactDecimal.exponent).toNat = unitExponent := by
    show (-(-(unitExponent : Int))).toNat = unitExponent
    omega
  refine decide_eq_true ?_
  rw [Binary64.ofDecimal_eq, up, down, Nat.pow_zero, Nat.mul_one]
  exact m.ofUnits_exactDecimal false

theorem isReadFrom_shortest (m : Magnitude) : m.isReadFrom m.shortest = true := by
  unfold shortest
  split
  · rename_i none
    have zero : m = Magnitude.zero := eq_of_units none
    rw [zero]
    decide +kernel
  · cases found : List.find? m.isReadFrom ((List.range 17).flatMap fun (n : Nat) =>
        m.neighbours (m.decimalPlace - 1 - (n : Int))) with
    | none => simpa [found] using m.isReadFrom_exactDecimal
    | some d => simpa [found] using List.find?_some found

/-- The shortest decimal reads back, under either sign. -/
theorem ofDecimal_shortest (m : Magnitude) (s : Bool) :
    Binary64.ofDecimal s m.shortest.coefficient m.shortest.exponent = .finite s m :=
  Binary64.ofDecimal_sign s (of_decide_eq_true m.isReadFrom_shortest)

end Magnitude

end FeatureGates
