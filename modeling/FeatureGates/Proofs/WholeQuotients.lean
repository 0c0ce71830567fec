import FeatureGates.Proofs.Rounding
import FeatureGates.Proofs.Signs

/-!
# Quotients rounded twice

The quotient of two integers is rounded to floating point and then down to
a whole number. Whole numbers below `2 ^ 52` are floating-point numbers, so
the first rounding moves no quotient across one; but it may move a quotient
onto the one above, and then the result is one too large
(`Number.divNat_floor`).

It does so if the quotient *grazes* that whole number (`Grazes`): if what
is missing is at most half of a last binary place of the quotient. Quotients
with few digits before the point or few after it do not
(`not_grazes_of_dvd`).
-/

namespace FeatureGates

/-! Powers of natural numbers are the ones of core. -/

attribute [local instance (2000)] instPowNat

/-! ## Rounding onto an even number -/

/-- A quotient is rounded up to an even number from one half below it on. -/
theorem le_roundHalfEven_iff (num : Nat) {den m : Nat} (hd : 0 < den) (even : m % 2 = 0) :
    m ≤ roundHalfEven num den ↔ 2 * (den * m) ≤ 2 * num + den := by
  have split_num := Nat.div_add_mod num den
  have rest := Nat.mod_lt num hd
  simp only [roundHalfEven]
  generalize num / den = k at split_num
  rcases Nat.lt_trichotomy m (k + 1) with below | same | above
  · have product := Nat.mul_le_mul_left den (Nat.le_of_lt_succ below)
    refine iff_of_true ?_ (by omega)
    repeat' split
    all_goals omega
  · have product : den * m = den * k + den := by rw [same, Nat.mul_succ]
    repeat' split
    all_goals omega
  · have product := Nat.mul_le_mul_left den above
    rw [Nat.mul_succ, Nat.mul_succ] at product
    refine iff_of_false ?_ (by omega)
    repeat' split
    all_goals omega

/-- A quotient is rounded down to an even number up to one half above it. -/
theorem roundHalfEven_le_iff (num : Nat) {den m : Nat} (hd : 0 < den) (even : m % 2 = 0) :
    roundHalfEven num den ≤ m ↔ 2 * num ≤ 2 * (den * m) + den := by
  have split_num := Nat.div_add_mod num den
  have rest := Nat.mod_lt num hd
  simp only [roundHalfEven]
  generalize num / den = k at split_num
  rcases Nat.lt_trichotomy m k with below | same | above
  · have product := Nat.mul_le_mul_left den below
    rw [Nat.mul_succ] at product
    refine iff_of_false ?_ (by omega)
    repeat' split
    all_goals omega
  · have product : den * m = den * k := by rw [same]
    repeat' split
    all_goals omega
  · have product := Nat.mul_le_mul_left den above
    rw [Nat.mul_succ] at product
    refine iff_of_true ?_ (by omega)
    repeat' split
    all_goals omega

/-! ## Quotients in floating point -/

/-- The quotient in units has the binary digits of its whole part and those of a unit. -/
theorem bitLength_units {a d : Nat} (hd : 0 < d) (whole : d ≤ a) :
    bitLength (a * unitsPerOne / d) = (a / d).log2 + 1 + unitExponent := by
  have some_whole : a / d ≠ 0 := Nat.ne_of_gt (Nat.div_pos whole hd)
  have low : 2 ^ (a / d).log2 * d ≤ a :=
    (Nat.le_div_iff_mul_le hd).1 (Nat.log2_self_le some_whole)
  have high : a < 2 ^ ((a / d).log2 + 1) * d := (Nat.div_lt_iff_lt_mul hd).1 Nat.lt_log2_self
  refine Nat.le_antisymm (bitLength_le_of_lt_two_pow ?_) ?_
  · rw [Nat.div_lt_iff_lt_mul hd, Nat.pow_add, Nat.mul_right_comm]
    exact Nat.mul_lt_mul_of_pos_right high (Nat.two_pow_pos unitExponent)
  · rw [Nat.add_right_comm]
    refine lt_bitLength_of_two_pow_le ?_
    rw [Nat.le_div_iff_mul_le hd, Nat.pow_add, Nat.mul_right_comm]
    exact Nat.mul_le_mul_right _ low

/-- Binary places after the point that a quotient keeps in floating point. -/
def placesKept (a d : Nat) : Nat := 52 - (a / d).log2

theorem log2_lt_of_short {q : Nat} (short : q < 2 ^ (52 : Nat)) : q.log2 < 52 := by
  by_cases none : q = 0
  · rw [none]
    decide
  · exact (Nat.log2_lt none).2 short

theorem placesKept_pos {a d : Nat} (short : a / d < 2 ^ (52 : Nat)) : 0 < placesKept a d :=
  Nat.sub_pos_of_lt (log2_lt_of_short short)

/-- A quotient that is not below one is rounded to the places it keeps. -/
theorem roundToPrecision_units {a d : Nat} (hd : 0 < d) (whole : d ≤ a)
    (short : a / d < 2 ^ (52 : Nat)) :
    ∃ c, 0 < c ∧ unitsPerOne = 2 ^ placesKept a d * c ∧
      roundToPrecision (a * unitsPerOne) d = roundHalfEven (a * 2 ^ placesKept a d) d * c := by
  have few := log2_lt_of_short short
  have kept : placesKept a d = 52 - (a / d).log2 := rfl
  have exponent : unitExponent = 1074 := rfl
  have units : unitsPerOne = 2 ^ placesKept a d * 2 ^ (unitExponent - placesKept a d) := by
    rw [← Nat.pow_add]
    show 2 ^ unitExponent = _
    congr 1
    omega
  have excess : excessBits (a * unitsPerOne / d) = unitExponent - placesKept a d := by
    unfold excessBits precision
    rw [bitLength_units hd whole]
    omega
  refine ⟨_, Nat.two_pow_pos _, units, ?_⟩
  unfold roundToPrecision
  simp only [excess]
  rw [units, ← Nat.mul_assoc, roundHalfEven_scale _ _ (Nat.two_pow_pos _)]

/-- A proper fraction of a short denominator is rounded to one, and to zero only if it is zero. -/
theorem roundToPrecision_fraction {a d : Nat} (short : d < 2 ^ precision) (below : a < d) :
    roundToPrecision (a * unitsPerOne) d < unitsPerOne ∧
      (0 < a → 0 < roundToPrecision (a * unitsPerOne) d) := by
  constructor
  · -- the greatest number below one is above all fractions of short denominators
    have greatest : roundToPrecision ((2 ^ precision - 1) * unitsPerOne) (2 ^ precision) <
        unitsPerOne := by decide +kernel
    refine Nat.lt_of_le_of_lt ?_ greatest
    have less : a * 2 ^ precision ≤ (2 ^ precision - 1) * d := by
      rw [Nat.sub_mul, Nat.one_mul]
      have step := Nat.mul_le_mul_right (2 ^ precision) below
      rw [Nat.succ_mul, Nat.mul_comm d] at step
      omega
    calc roundToPrecision (a * unitsPerOne) d
        = roundToPrecision (a * unitsPerOne * 2 ^ precision) (d * 2 ^ precision) :=
          (roundToPrecision_scale _ _ (Nat.two_pow_pos _)).symm
      _ ≤ roundToPrecision ((2 ^ precision - 1) * unitsPerOne * d) (d * 2 ^ precision) := by
          refine roundToPrecision_mono _ ?_
          rw [Nat.mul_right_comm, Nat.mul_right_comm _ unitsPerOne]
          exact Nat.mul_le_mul_right _ less
      _ = roundToPrecision ((2 ^ precision - 1) * unitsPerOne) (2 ^ precision) := by
          rw [Nat.mul_comm d]
          exact roundToPrecision_scale _ _ (Nat.zero_lt_of_lt below)
  · intro positive
    refine two_pow_le_roundToPrecision (k := 0) ?_
    have large : 2 ^ precision ≤ unitsPerOne := Nat.pow_le_pow_right (by decide) (by decide)
    rw [Nat.le_div_iff_mul_le (Nat.zero_lt_of_lt below), Nat.pow_zero, Nat.one_mul]
    exact Nat.le_trans (Nat.le_trans (Nat.le_of_lt short) large)
      (Nat.le_mul_of_pos_left _ positive)

/-! ## Signed quotients -/

/-- A signed quotient of `n * p` by `d`, rounded to the nearest integer. -/
def roundSigned (n : Int) (p d : Nat) : Int :=
  if n < 0 then -(roundHalfEven (n.natAbs * p) d : Int) else roundHalfEven (n.natAbs * p) d

/-- An even number is not above what a quotient is rounded to if it is at most one half above it. -/
theorem le_roundSigned_iff {n m : Int} {p d : Nat} (hd : 0 < d) (even : m % 2 = 0) :
    m ≤ roundSigned n p d ↔ 2 * (d * m) ≤ 2 * (n * p) + d := by
  have positive : (0 : Int) < d := Int.natCast_pos.2 hd
  unfold roundSigned
  split
  · rename_i negative
    obtain ⟨a, rfl⟩ := Int.exists_eq_neg_ofNat (Int.le_of_lt negative)
    rw [Int.natAbs_neg, Int.natAbs_natCast, Int.neg_mul]
    have product : (0 : Int) ≤ a * p := Int.mul_nonneg (Int.natCast_nonneg a) (Int.natCast_nonneg p)
    rcases Int.lt_or_le 0 m with above | below
    · -- no negative quotient is rounded to an even number above zero
      have step := Int.mul_le_mul_of_nonneg_left (show 2 ≤ m by omega) (Int.le_of_lt positive)
      exact iff_of_false (by omega) (by omega)
    · obtain ⟨k, rfl⟩ := Int.exists_eq_neg_ofNat below
      have rounded := roundHalfEven_le_iff (a * p) hd (show k % 2 = 0 by omega)
      rw [Int.mul_neg, Int.neg_le_neg_iff, Int.ofNat_le, rounded]
      omega
  · rename_i nonneg
    obtain ⟨a, rfl⟩ := Int.eq_ofNat_of_zero_le (Int.not_lt.1 nonneg)
    rw [Int.natAbs_natCast]
    have product : (0 : Int) ≤ a * p := Int.mul_nonneg (Int.natCast_nonneg a) (Int.natCast_nonneg p)
    rcases Int.lt_or_le m 0 with below | above
    · have step := Int.mul_nonpos_of_nonneg_of_nonpos (Int.le_of_lt positive) (Int.le_of_lt below)
      exact iff_of_true (by omega) (by omega)
    · obtain ⟨k, rfl⟩ := Int.eq_ofNat_of_zero_le above
      have rounded := le_roundHalfEven_iff (a * p) hd (show k % 2 = 0 by omega)
      rw [Int.ofNat_le, rounded]
      omega

/-- How far the next whole number above a quotient is, in parts of the denominator. -/
def shortfall (n : Int) (d : Nat) : Nat := d - (n % d).toNat

/-- What a quotient lacks to the next whole number above it is at most half of its last binary
place in floating point. -/
def Grazes (n : Int) (d : Nat) : Prop :=
  shortfall n d * 2 ^ precision ≤ d * 2 ^ (n.natAbs / d).log2

instance (n : Int) (d : Nat) : Decidable (Grazes n d) := inferInstanceAs (Decidable (_ ≤ _))

theorem shortfall_pos {n : Int} {d : Nat} (hd : 0 < d) : 0 < shortfall n d := by
  have rest_lt := Int.emod_lt_of_pos n (Int.natCast_pos.2 hd)
  unfold shortfall
  omega

/-- Quotients with few digits before the point do not graze, and the more of them are admissible
the coarser the fraction is. -/
theorem not_grazes_of_dvd {n : Int} {d g : Nat} (hd : 0 < d) (whole : (g : Int) ∣ n) (parts : g ∣ d)
    (few : d * 2 ^ (n.natAbs / d).log2 < g * 2 ^ precision) : ¬Grazes n d := by
  have divides : g ∣ shortfall n d := by
    refine Nat.dvd_sub parts (Int.natCast_dvd_natCast.1 ?_)
    rw [Int.toNat_of_nonneg (Int.emod_nonneg n (Int.ne_of_gt (Int.natCast_pos.2 hd))),
      Int.emod_def]
    exact Int.dvd_sub whole (Int.dvd_trans (Int.natCast_dvd_natCast.2 parts) (Int.dvd_mul_right ..))
  have lacking := Nat.mul_le_mul_right (2 ^ precision) (Nat.le_of_dvd (shortfall_pos hd) divides)
  unfold Grazes
  omega

theorem not_grazes_of_lt {n : Int} {d : Nat} (hd : 0 < d)
    (few : d * 2 ^ (n.natAbs / d).log2 < 2 ^ precision) : ¬Grazes n d :=
  not_grazes_of_dvd hd (Int.one_dvd n) (Nat.one_dvd d) (by rwa [Nat.one_mul])

theorem grazes_iff {n : Int} {d : Nat} (short : n.natAbs / d < 2 ^ (52 : Nat)) :
    Grazes n d ↔ 2 * (shortfall n d * 2 ^ placesKept n.natAbs d) ≤ d := by
  have few := log2_lt_of_short short
  have powers : 2 ^ precision = 2 * 2 ^ placesKept n.natAbs d * 2 ^ (n.natAbs / d).log2 := by
    rw [← Nat.pow_succ', ← Nat.pow_add]
    unfold precision placesKept
    congr 1
    omega
  unfold Grazes
  rw [powers, ← Nat.mul_assoc, Nat.mul_le_mul_right_iff (Nat.two_pow_pos _), Nat.mul_left_comm]

/-- A signed quotient that is rounded to even places and then down. -/
theorem roundSigned_ediv {n : Int} {p d : Nat} (hd : 0 < d) (hp : 0 < p) (even : p % 2 = 0) :
    roundSigned n p d / p = n / d + if 2 * (shortfall n d * p) ≤ d then 1 else 0 := by
  have positive : (0 : Int) < p := Int.natCast_pos.2 hp
  obtain ⟨r, rest⟩ := Int.eq_ofNat_of_zero_le
    (Int.emod_nonneg n (Int.ne_of_gt (Int.natCast_pos.2 hd)))
  have rest_lt : r < d := by
    have less := Int.emod_lt_of_pos n (Int.natCast_pos.2 hd)
    omega
  have split_n : n * p = d * p * (n / d) + r * p := by
    rw [Int.mul_right_comm, ← Int.add_mul, ← rest, Int.mul_ediv_add_emod]
  have bound (u : Int) : u ≤ roundSigned n p d / p ↔
      2 * (d * p * u) ≤ 2 * (d * p * (n / d) + r * p) + d := by
    have places : u * p % 2 = 0 := by
      rw [Int.mul_emod, show (p : Int) % 2 = 0 by omega, Int.mul_zero, Int.zero_emod]
    rw [Int.le_ediv_iff_mul_le positive, le_roundSigned_iff hd places, ← split_n,
      Int.mul_comm u, Int.mul_assoc]
  have lacking : shortfall n d * p + r * p = d * p := by
    rw [shortfall, rest, Int.toNat_natCast, ← Nat.add_mul,
      Nat.sub_add_cancel (Nat.le_of_lt rest_lt)]
  have wide : 2 * d ≤ d * p := by
    rw [Nat.mul_comm d]
    exact Nat.mul_le_mul_right d (by omega)
  -- the result is the whole part or one more, and not two more
  have whole := (bound (n / d)).2
  have next := bound (n / d + 1)
  have last := bound (n / d + 2)
  rw [Int.mul_add, Int.mul_one] at next
  rw [Int.mul_add] at last
  split <;> omega

/-! ## Rounding to floating point and down -/

namespace Binary64

/-- A quotient of at least one, rounded to floating point and down. -/
theorem signedUnits_ediv_of_le {n : Int} {d : Nat} {m : Magnitude} (hd : 0 < d)
    (short : n.natAbs / d < 2 ^ (52 : Nat)) (whole : d ≤ n.natAbs)
    (units : m.units = roundToPrecision (n.natAbs * unitsPerOne) d) :
    signedUnits (n < 0) m / unitsPerOne = n / d + if Grazes n d then 1 else 0 := by
  obtain ⟨c, positive, unit, rounded⟩ := roundToPrecision_units hd whole short
  have even : 2 ^ placesKept n.natAbs d % 2 = 0 :=
    Nat.mod_eq_zero_of_dvd (Nat.pow_dvd_pow 2 (placesKept_pos short))
  have scaled : signedUnits (n < 0) m = roundSigned n (2 ^ placesKept n.natAbs d) d * c := by
    unfold signedUnits roundSigned
    rw [units, rounded]
    by_cases negative : n < 0
    · simp only [negative, decide_true, if_true, Int.natCast_mul, Int.neg_mul]
    · simp only [negative, decide_false, Bool.false_eq_true, if_false, Int.natCast_mul]
  rw [scaled, unit, Int.natCast_mul, Int.mul_ediv_mul_of_pos_left _ _ (Int.natCast_pos.2 positive),
    roundSigned_ediv hd (Nat.two_pow_pos _) even]
  simp only [grazes_iff short]

theorem ediv_eq_neg_one {z w : Int} (low : -w ≤ z) (negative : z < 0) : z / w = -1 := by
  have positive : 0 < w := by omega
  have above : -1 ≤ z / w := Int.le_ediv_of_mul_le positive (by omega)
  have below := Int.ediv_neg_of_neg_of_pos negative positive
  omega

/-- A quotient below one, rounded to floating point and down. -/
theorem signedUnits_ediv_of_lt {n : Int} {d : Nat} {m : Magnitude} (small : d < 2 ^ precision)
    (below : n.natAbs < d) (units : m.units = roundToPrecision (n.natAbs * unitsPerOne) d) :
    signedUnits (n < 0) m / unitsPerOne = n / d + if Grazes n d then 1 else 0 := by
  obtain ⟨less, some_units⟩ := roundToPrecision_fraction small below
  rw [← units] at less some_units
  have apart : ¬Grazes n d := by
    refine not_grazes_of_lt (Nat.zero_lt_of_lt below) ?_
    rw [Nat.div_eq_of_lt below, Nat.log2_zero, Nat.pow_zero, Nat.mul_one]
    exact small
  rw [if_neg apart, Int.add_zero]
  unfold signedUnits
  by_cases negative : n < 0
  · have positive := some_units (Int.natAbs_pos.2 (Int.ne_of_lt negative))
    simp only [negative, decide_true, if_true]
    rw [ediv_eq_neg_one (by omega) negative, ediv_eq_neg_one (by omega) (by omega)]
  · simp only [negative, decide_false, Bool.false_eq_true, if_false]
    rw [Int.ediv_eq_zero_of_lt (by omega) (by omega), Int.ediv_eq_zero_of_lt (by omega) (by omega)]

end Binary64

theorem two_pow_units_lt_unitLimit :
    roundToPrecision (2 ^ (52 : Nat) * unitsPerOne) 1 < unitLimit := by
  decide +kernel

/-! The powers are not to be computed where terms are compared. -/

attribute [local irreducible] unitsPerOne unitLimit

theorem exists_round?_of_short {a d : Nat} (hd : 0 < d) (short : a / d < 2 ^ (52 : Nat)) :
    ∃ m, Magnitude.round? (a * unitsPerOne) d = some m := by
  have less : a * unitsPerOne ≤ 2 ^ (52 : Nat) * unitsPerOne * d := by
    rw [Nat.mul_right_comm]
    exact Nat.mul_le_mul_right _ (Nat.le_of_lt ((Nat.div_lt_iff_lt_mul hd).1 short))
  have bounded : roundToPrecision (a * unitsPerOne) d < unitLimit := by
    refine Nat.lt_of_le_of_lt (roundToPrecision_mono d less) ?_
    have scaled := roundToPrecision_scale (2 ^ (52 : Nat) * unitsPerOne) 1 hd
    rw [Nat.one_mul] at scaled
    rw [scaled]
    exact two_pow_units_lt_unitLimit
  exact ⟨_, dif_pos bounded⟩

namespace Number

/-- The quotient of an integer, rounded to floating point and down, is that of the integers, or
one more if it grazes the next. -/
theorem divNat_floor {n : Int} {d : Nat} (hd : 0 < d) (small : d < 2 ^ precision)
    (short : n.natAbs / d < 2 ^ (52 : Nat)) :
    ∃ s m, (int n).divNat d = .ok (.finite s m) ∧
      (float (.finite s m)).floor = .ok (n.fdiv d + if Grazes n d then 1 else 0) := by
  obtain ⟨m, rounded⟩ := exists_round?_of_short hd short
  have units := Magnitude.units_of_round? rounded
  refine ⟨_, m, divNat_int rounded, ?_⟩
  rw [floor, Int.fdiv_eq_ediv_of_nonneg _ (Int.natCast_nonneg _),
    Int.fdiv_eq_ediv_of_nonneg _ (Int.natCast_nonneg _)]
  rcases Nat.lt_or_ge n.natAbs d with below | whole
  · rw [Binary64.signedUnits_ediv_of_lt small below units]
  · rw [Binary64.signedUnits_ediv_of_le hd short whole units]

example : Grazes 999999999999999999 1000 := by decide +kernel
example : ¬Grazes 253402300799999 1000 := by decide +kernel

end Number

end FeatureGates
