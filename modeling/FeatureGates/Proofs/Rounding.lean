import FeatureGates.Number.Binary64

/-!
# Laws of rounding

Rounding a quotient depends on the quotient alone, not on the pair that
denotes it (`roundToPrecision_scale`), and keeps what is representable
(`roundToPrecision_of_representable`) and the order of two quotients
(`roundToPrecision_mono`). A result is never more than twice the quotient
plus one, and a power of two below the quotient stays below
the result: these two bounds decide which decimals are too small or too
large for a floating-point number.
-/

namespace FeatureGates

/-! Powers of natural numbers are the ones of core. -/

attribute [local instance (2000)] instPowNat

/-! ## Binary length -/

theorem bitLength_le_of_lt_two_pow {n k : Nat} (h : n < 2 ^ k) : bitLength n ≤ k := by
  unfold bitLength
  split
  · omega
  · rename_i hn
    have : n.log2 < k := (Nat.log2_lt hn).2 h
    omega

theorem lt_bitLength_of_two_pow_le {n k : Nat} (h : 2 ^ k ≤ n) : k < bitLength n := by
  have pos : n ≠ 0 := by have := Nat.two_pow_pos k; omega
  unfold bitLength
  rw [if_neg pos]
  have : k ≤ n.log2 := (Nat.le_log2 pos).2 h
  omega

theorem two_pow_le_of_bitLength_pos {n : Nat} (h : 0 < bitLength n) :
    2 ^ (bitLength n - 1) ≤ n := by
  unfold bitLength at h ⊢
  split at h
  · omega
  · rename_i hn
    rw [if_neg hn]
    simpa using Nat.log2_self_le hn

/-- The power of two that is given up is one or does not exceed the number. -/
theorem two_pow_excessBits_le (n : Nat) : 2 ^ excessBits n ≤ n + 1 := by
  unfold excessBits precision
  by_cases h : bitLength n ≤ 53
  · rw [Nat.sub_eq_zero_of_le h]
    omega
  · have low : 2 ^ (bitLength n - 1) ≤ n := two_pow_le_of_bitLength_pos (by omega)
    have mono : 2 ^ (bitLength n - 53) ≤ 2 ^ (bitLength n - 1) :=
      Nat.pow_le_pow_right (by decide) (by omega)
    omega

/-! ## Scaling -/

theorem roundHalfEven_scale (num den : Nat) {k : Nat} (hk : 0 < k) :
    roundHalfEven (num * k) (den * k) = roundHalfEven num den := by
  have rest : num * k % (den * k) = num % den * k := Nat.mul_mod_mul_right k num den
  have quotient : num * k / (den * k) = num / den := Nat.mul_div_mul_right num den hk
  have double : 2 * (num % den * k) = 2 * (num % den) * k := (Nat.mul_assoc ..).symm
  simp only [roundHalfEven, rest, quotient, double, Nat.mul_lt_mul_right hk]

theorem roundHalfEven_mul_self (n : Nat) {k : Nat} (hk : 0 < k) : roundHalfEven (n * k) k = n := by
  have scaled := roundHalfEven_scale n 1 hk
  rwa [Nat.one_mul, roundHalfEven_one] at scaled

/-- Rounding depends on the quotient alone. -/
theorem roundToPrecision_scale (num den : Nat) {k : Nat} (hk : 0 < k) :
    roundToPrecision (num * k) (den * k) = roundToPrecision num den := by
  unfold roundToPrecision
  rw [Nat.mul_div_mul_right num den hk]
  simp only
  rw [Nat.mul_right_comm den k, roundHalfEven_scale _ _ hk]

/-! ## Bounds -/

theorem div_le_roundHalfEven (num den : Nat) : num / den ≤ roundHalfEven num den := by
  simp only [roundHalfEven]
  split
  · omega
  · split <;> omega

theorem roundHalfEven_eq_zero {num den : Nat} (h : 2 * num < den) : roundHalfEven num den = 0 := by
  have small : num < den := by omega
  simp only [roundHalfEven, Nat.div_eq_of_lt small, Nat.mod_eq_of_lt small, if_pos h]

/-- Less than half a unit rounds to nothing. -/
theorem roundToPrecision_eq_zero {num den : Nat} (h : 2 * num < den) :
    roundToPrecision num den = 0 := by
  have kept : excessBits (num / den) = 0 := by
    rw [Nat.div_eq_of_lt (by omega)]
    rfl
  simp only [roundToPrecision, kept, Nat.pow_zero, Nat.mul_one]
  exact roundHalfEven_eq_zero h

theorem roundToPrecision_le (num den : Nat) :
    roundToPrecision num den ≤ 2 * (num / den) + 1 := by
  unfold roundToPrecision
  simp only
  have upper := roundHalfEven_le num (den * 2 ^ excessBits (num / den))
  have given := two_pow_excessBits_le (num / den)
  rw [← Nat.div_div_eq_div_mul] at upper
  calc roundHalfEven num (den * 2 ^ excessBits (num / den)) * 2 ^ excessBits (num / den)
      ≤ (num / den / 2 ^ excessBits (num / den) + 1) * 2 ^ excessBits (num / den) :=
        Nat.mul_le_mul_right _ upper
    _ = num / den / 2 ^ excessBits (num / den) * 2 ^ excessBits (num / den)
          + 2 ^ excessBits (num / den) := by rw [Nat.add_mul, Nat.one_mul]
    _ ≤ num / den + 2 ^ excessBits (num / den) :=
        Nat.add_le_add_right (Nat.div_mul_le_self ..) _
    _ ≤ 2 * (num / den) + 1 := by omega

/-- A power of two that the quotient reaches is reached by the result. -/
theorem two_pow_le_roundToPrecision {num den k : Nat} (h : 2 ^ k ≤ num / den) :
    2 ^ k ≤ roundToPrecision num den := by
  unfold roundToPrecision
  simp only
  have lower := div_le_roundHalfEven num (den * 2 ^ excessBits (num / den))
  rw [← Nat.div_div_eq_div_mul] at lower
  refine Nat.le_trans ?_ (Nat.mul_le_mul_right _ lower)
  generalize hq : num / den = q at h ⊢
  by_cases small : bitLength q ≤ 53
  · have kept : excessBits q = 0 := Nat.sub_eq_zero_of_le small
    simpa [kept] using h
  · -- the leading digit alone is a multiple of the power that is given up
    have lead : 2 ^ (bitLength q - 1) ≤ q := two_pow_le_of_bitLength_pos (by omega)
    have below : k ≤ bitLength q - 1 := by have := lt_bitLength_of_two_pow_le h; omega
    have lead_eq : 2 ^ (bitLength q - 1) = 2 ^ 52 * 2 ^ excessBits q := by
      rw [← Nat.pow_add]
      congr 1
      unfold excessBits precision
      omega
    calc 2 ^ k ≤ 2 ^ (bitLength q - 1) := Nat.pow_le_pow_right (by decide) below
      _ = 2 ^ 52 * 2 ^ excessBits q := lead_eq
      _ ≤ q / 2 ^ excessBits q * 2 ^ excessBits q := by
        refine Nat.mul_le_mul_right _ ((Nat.le_div_iff_mul_le (Nat.two_pow_pos _)).2 ?_)
        rw [← lead_eq]
        exact lead

/-! ## Order -/

theorem roundHalfEven_mono {a b den : Nat} (h : a ≤ b) :
    roundHalfEven a den ≤ roundHalfEven b den := by
  rcases Nat.lt_or_eq_of_le (Nat.div_le_div_right (c := den) h) with less | same
  · have upper := roundHalfEven_le a den
    have lower := div_le_roundHalfEven b den
    omega
  · -- where the quotients are one, the rests are ordered
    have split_a := Nat.div_add_mod a den
    have split_b := Nat.div_add_mod b den
    rw [same] at split_a
    have rests : a % den ≤ b % den := by omega
    simp only [roundHalfEven, same]
    repeat' split
    all_goals omega

theorem bitLength_mono {m n : Nat} (h : m ≤ n) : bitLength m ≤ bitLength n :=
  bitLength_le_of_lt_two_pow (Nat.lt_of_le_of_lt h (lt_two_pow_bitLength n))

/-- What is rounded keeps its order. -/
theorem roundToPrecision_mono {a b : Nat} (den : Nat) (h : a ≤ b) :
    roundToPrecision a den ≤ roundToPrecision b den := by
  have quotients : a / den ≤ b / den := Nat.div_le_div_right h
  have lengths := bitLength_mono quotients
  by_cases given : excessBits (a / den) = excessBits (b / den)
  · unfold roundToPrecision
    simp only [given]
    exact Nat.mul_le_mul_right _ (roundHalfEven_mono h)
  · -- the greater one has more binary digits, and a power of two stands between them
    have more : precision + excessBits (a / den) ≤ bitLength (b / den) - 1 := by
      unfold excessBits at given ⊢
      omega
    have leading : 2 ^ (bitLength (b / den) - 1) ≤ b / den :=
      two_pow_le_of_bitLength_pos (by unfold precision at more; omega)
    calc roundToPrecision a den ≤ 2 ^ precision * 2 ^ excessBits (a / den) :=
          Nat.mul_le_mul_right _ (roundHalfEven_le_two_pow a den)
      _ = 2 ^ (precision + excessBits (a / den)) := (Nat.pow_add ..).symm
      _ ≤ 2 ^ (bitLength (b / den) - 1) := Nat.pow_le_pow_right (by decide) more
      _ ≤ roundToPrecision b den := two_pow_le_roundToPrecision leading

/-! ## Representable numbers -/

/-- A number of at most `precision` significant binary digits is its own rounding. -/
theorem roundToPrecision_of_representable {n : Nat}
    (h : ∃ m e : Nat, m ≤ 2 ^ precision ∧ n = m * 2 ^ e) : roundToPrecision n 1 = n := by
  obtain ⟨m, e, hm, rfl⟩ := h
  have divides : 2 ^ excessBits (m * 2 ^ e) ∣ m * 2 ^ e := by
    rcases Nat.lt_or_eq_of_le hm with lt | rfl
    · have short : bitLength (m * 2 ^ e) ≤ precision + e := by
        apply bitLength_le_of_lt_two_pow
        rw [Nat.pow_add]
        exact Nat.mul_lt_mul_of_pos_right lt (Nat.two_pow_pos e)
      refine Nat.dvd_trans (Nat.pow_dvd_pow 2 ?_) (Nat.dvd_mul_left ..)
      unfold excessBits
      omega
    · have short : bitLength (2 ^ precision * 2 ^ e) ≤ precision + e + 1 := by
        apply bitLength_le_of_lt_two_pow
        rw [← Nat.pow_add]
        exact Nat.pow_lt_pow_right (by decide) (by omega)
      rw [← Nat.pow_add]
      refine Nat.pow_dvd_pow 2 ?_
      rw [Nat.pow_add]
      unfold excessBits precision at *
      omega
  unfold roundToPrecision
  simp only [Nat.div_one, Nat.one_mul]
  have pos : 0 < 2 ^ excessBits (m * 2 ^ e) := Nat.two_pow_pos _
  generalize m * 2 ^ e = n, 2 ^ excessBits (m * 2 ^ e) = given at divides pos ⊢
  obtain ⟨k, rfl⟩ := divides
  rw [Nat.mul_comm given k, roundHalfEven_mul_self k pos]

end FeatureGates
