import FeatureGates.Proofs.Decimal
import FeatureGates.Proofs.Order
import FeatureGates.Proofs.Refinement

/-!
# Products and quotients above zero

Rounding makes nothing positive that was not: a product by a count or a
quotient by one is above zero only if the number is (`Number.pos_of_mul`,
`Number.pos_of_divNat`). Of a number that is not too large for a
floating-point number the quotient is not either
(`Number.exists_divNat`), and a number by an equal one is one
(`Number.divNat_of_eq`).
-/

namespace FeatureGates

/-! Powers of natural numbers are the ones of core. -/

attribute [local instance (2000)] instPowNat

theorem two_lt_unitLimit : 2 < unitLimit := by
  show 2 ^ 1 < 2 ^ (1024 + unitExponent)
  exact Nat.pow_lt_pow_right (by decide) (by decide)

theorem unitLimit_le_roundToPrecision {num den : Nat} (h : unitLimit ≤ num / den) :
    unitLimit ≤ roundToPrecision num den := two_pow_le_roundToPrecision h

/-- The size of the number one. -/
def Magnitude.one : Magnitude where
  units := unitsPerOne
  bounded := Nat.pow_lt_pow_right (by decide) (by decide)
  representable := ⟨1, unitExponent, by decide, by rw [Nat.one_mul]; rfl⟩

/-! The powers of two are not to be computed where terms are compared. -/

attribute [local irreducible] unitsPerOne unitLimit

/-! ## Signs -/

namespace Binary64

/-- Above zero. -/
inductive IsPositive : Binary64 → Prop
  | infinite : IsPositive (.infinite false)
  | finite {m : Magnitude} (h : 0 < m.units) : IsPositive (.finite false m)

theorem pos_iff {x : Binary64} : Number.lt (.int 0) (.float x) = true ↔ x.IsPositive := by
  have zero : (0 : Int) * unitsPerOne = 0 := Int.zero_mul _
  constructor
  · intro h
    obtain ⟨p, q, hp, hq, less⟩ := Number.positions_of_lt h
    cases hp
    cases x with
    | nan => cases hq
    | infinite s =>
      cases s with
      | true => cases hq; cases less
      | false => exact .infinite
    | finite s m =>
      cases hq
      have less : 0 * (unitsPerOne : Int) < signedUnits s m := of_decide_eq_true less
      rw [zero] at less
      cases s with
      | true => simp only [signedUnits, if_true] at less; omega
      | false => exact .finite (by simpa [signedUnits] using less)
  · intro h
    cases h with
    | infinite => rfl
    | finite h =>
      show decide (0 * (unitsPerOne : Int) < signedUnits false _) = true
      rw [zero, decide_eq_true_eq]
      simpa [signedUnits] using h

variable {x : Binary64} {s : Bool} {num den : Nat}

/-- What is rounded to a positive number was one. -/
theorem sign_of_ofUnits (hd : 0 < den) (h : (ofUnits s num den).IsPositive) :
    s = false ∧ 0 < num := by
  have some_units : 0 < num := by
    refine Nat.pos_of_ne_zero fun none => ?_
    rw [none, ofUnits_zero s hd] at h
    cases h with
    | finite h => cases h
  refine ⟨?_, some_units⟩
  rw [ofUnits_eq] at h
  cases rounded : Magnitude.round? num den with
  | some m =>
    rw [rounded, Option.map_some, Option.getD_some] at h
    cases h
    rfl
  | none =>
    rw [rounded, Option.map_none, Option.getD_none] at h
    cases h
    rfl

theorem isPositive_of_divNat (hd : 0 < den) (h : (x.divNat den).IsPositive) : x.IsPositive := by
  cases x with
  | nan => exact h
  | infinite s => exact h
  | finite s m =>
    obtain ⟨rfl, units⟩ := sign_of_ofUnits hd h
    exact .finite units

theorem isPositive_of_mul {k : Magnitude} (h : (x.mul (.finite false k)).IsPositive) :
    x.IsPositive := by
  cases x with
  | nan => exact h
  | infinite s =>
    have h : (if k.units = 0 then nan else .infinite (s != false)).IsPositive := h
    split at h
    · cases h
    · cases s with
      | true => cases h
      | false => exact .infinite
  | finite s m =>
    obtain ⟨sign, units⟩ := sign_of_ofUnits unitsPerOne_pos h
    cases s with
    | true => cases sign
    | false => exact .finite (Nat.pos_of_mul_pos_right units)

theorem ofRatio?_eq_some {n : Int} (h : ofRatio? n den = some x) :
    ∃ m, Magnitude.round? (n.natAbs * unitsPerOne) den = some m ∧ x = .finite (n < 0) m := by
  obtain ⟨m, rounded, rfl⟩ := Option.map_eq_some_iff.1 h
  exact ⟨m, rounded, rfl⟩

end Binary64

namespace Number

/-! ## Inversion -/

theorem toBinary64_eq_ok {a : Number} {x : Binary64} (h : a.toBinary64 = .ok x) :
    (∃ n, a = .int n ∧ Binary64.ofRatio? n 1 = some x) ∨ a = .float x := by
  revert h
  fun_cases toBinary64 a with
  | case1 n y nearest => exact fun h => .inl ⟨n, rfl, Except.ok.inj h ▸ nearest⟩
  | case2 n nearest => exact nofun
  | case3 y => exact fun h => .inr (congrArg float (Except.ok.inj h))

theorem divNat_eq_ok {a : Number} {d : Nat} {x : Binary64} (h : a.divNat d = .ok x) :
    (∃ n, a = .int n ∧ Binary64.ofRatio? n d = some x) ∨ ∃ y, a = .float y ∧ x = y.divNat d := by
  revert h
  fun_cases divNat a d with
  | case1 n y nearest => exact fun h => .inl ⟨n, rfl, Except.ok.inj h ▸ nearest⟩
  | case2 n nearest => exact nofun
  | case3 y => exact fun h => .inr ⟨y, rfl, (Except.ok.inj h).symm⟩

theorem divNat_int {n : Int} {d : Nat} {m : Magnitude}
    (h : Magnitude.round? (n.natAbs * unitsPerOne) d = some m) :
    divNat (.int n) d = .ok (.finite (n < 0) m) := by
  have near : Binary64.ofRatio? n d = some (.finite (n < 0) m) := congrArg (Option.map _) h
  generalize whole : int n = a
  fun_cases divNat a d with
  | case1 k y nearest =>
    cases whole
    rw [near] at nearest
    exact congrArg Except.ok (Option.some.inj nearest).symm
  | case2 k nearest =>
    cases whole
    rw [near] at nearest
    cases nearest
  | case3 y => cases whole

/-! ## Products -/

theorem toBinary64_natCast {k : Nat} {x : Binary64} (h : toBinary64 (.int k) = .ok x) :
    ∃ m, x = .finite false m := by
  obtain ⟨n, same, near⟩ | same := toBinary64_eq_ok h
  · cases same
    obtain ⟨m, -, rfl⟩ := Binary64.ofRatio?_eq_some near
    exact ⟨m, by rw [decide_eq_false (by omega)]⟩
  · cases same

/-- A product by a count is above zero only if the number is. -/
theorem pos_of_mul {n p : Number} {k : Nat} (h : n.mul (.int k) = .ok p)
    (pos : lt (.int 0) p = true) : lt (.int 0) n = true := by
  cases n with
  | int n =>
    cases h
    rw [pos_int_iff] at pos ⊢
    rw [← Int.zero_mul k] at pos
    exact Int.lt_of_mul_lt_mul_right pos (Int.natCast_nonneg k)
  | float x =>
    obtain ⟨y, same, h⟩ := exists_of_bind_eq_ok h
    cases same
    obtain ⟨z, count, h⟩ := exists_of_bind_eq_ok h
    cases h
    obtain ⟨m, rfl⟩ := toBinary64_natCast count
    exact Binary64.pos_iff.2 (Binary64.isPositive_of_mul (Binary64.pos_iff.1 pos))

theorem exists_mul_thousand (a : Number) : ∃ p, a.mul (.int 1000) = .ok p := by
  cases a with
  | int n => exact ⟨_, rfl⟩
  | float x =>
    have fits : (toBinary64 (.int 1000)).toOption.isSome = true := by decide +kernel
    cases near : toBinary64 (.int 1000) with
    | error failure => rw [near] at fits; cases fits
    | ok y =>
      show ∃ p, (do return float (x.mul (← toBinary64 (.int 1000)))) = Except.ok p
      rw [near]
      exact ⟨_, rfl⟩

/-! ## Quotients -/

/-- A quotient is above zero only if the number is. -/
theorem pos_of_divNat {a : Number} {d : Nat} {x : Binary64} (hd : 0 < d) (h : a.divNat d = .ok x)
    (pos : x.IsPositive) : lt (.int 0) a = true := by
  obtain ⟨n, rfl, near⟩ | ⟨y, rfl, rfl⟩ := divNat_eq_ok h
  · obtain ⟨m, rounded, rfl⟩ := Binary64.ofRatio?_eq_some near
    have away : (Binary64.ofUnits (n < 0) (n.natAbs * unitsPerOne) d).IsPositive := by
      rwa [Binary64.ofUnits_of_round? rounded]
    obtain ⟨sign, units⟩ := Binary64.sign_of_ofUnits hd away
    have natAbs_pos := Nat.pos_of_mul_pos_right units
    have sign := of_decide_eq_false sign
    rw [pos_int_iff]
    omega
  · exact Binary64.pos_iff.2 (Binary64.isPositive_of_divNat hd pos)

/-- A number that is not too large for a floating-point number has a quotient that is not. -/
theorem exists_divNat {a : Number} {x : Binary64} {d : Nat} (hd : 2 < d)
    (h : a.toBinary64 = .ok x) : ∃ y, a.divNat d = .ok y := by
  obtain ⟨n, rfl, near⟩ | rfl := toBinary64_eq_ok h
  · obtain ⟨m, rounded, -⟩ := Binary64.ofRatio?_eq_some near
    have low : n.natAbs * unitsPerOne < unitLimit := by
      refine Nat.lt_of_not_le fun high => ?_
      have large : unitLimit ≤ roundToPrecision (n.natAbs * unitsPerOne) 1 :=
        unitLimit_le_roundToPrecision (by rwa [Nat.div_one])
      rw [← Magnitude.units_of_round? rounded] at large
      exact Nat.not_lt_of_le large m.bounded
    have small : roundToPrecision (n.natAbs * unitsPerOne) d < unitLimit := by
      have upper := roundToPrecision_le (n.natAbs * unitsPerOne) d
      have third : n.natAbs * unitsPerOne / d ≤ n.natAbs * unitsPerOne / 3 :=
        Nat.div_le_div_left hd (by decide)
      have two := two_lt_unitLimit
      omega
    have rounded : Magnitude.round? (n.natAbs * unitsPerOne) d =
        some ⟨_, small, roundToPrecision_eq _ _⟩ := dif_pos small
    exact ⟨_, divNat_int rounded⟩
  · exact ⟨_, rfl⟩

theorem position?_one : position? (.int 1) = position? (.float (.finite false .one)) := by
  show some (Position.at (1 * unitsPerOne)) = some (Position.at unitsPerOne)
  rw [Int.one_mul]

/-- A number divided by an equal count is one. -/
theorem divNat_of_eq {a : Number} {d : Nat} (hd : 0 < d) (h : a.eq (.int d) = true) :
    a.divNat d = .ok (.finite false .one) := by
  have one : Magnitude.round? (d * unitsPerOne) d = some .one := by
    have scaled := Magnitude.round?_scale unitsPerOne 1 hd
    rw [Nat.one_mul, Nat.mul_comm] at scaled
    exact scaled.trans (Magnitude.round?_units .one)
  obtain ⟨p, place, count⟩ := positions_of_eq h
  have count : Position.at (d * unitsPerOne) = p := Option.some.inj count
  rw [← count] at place
  cases a with
  | int n =>
    have same : n * (unitsPerOne : Int) = d * unitsPerOne :=
      Position.at.inj (Option.some.inj place)
    obtain rfl : n = d :=
      Int.eq_of_mul_eq_mul_right (Int.ne_of_gt (Int.natCast_pos.2 unitsPerOne_pos)) same
    have positive : decide ((d : Int) < 0) = false := decide_eq_false (by omega)
    rw [← positive]
    exact divNat_int one
  | float x =>
    cases x with
    | nan => cases place
    | infinite s => cases s <;> cases place
    | finite s m =>
      have units : Binary64.signedUnits s m = ((d * unitsPerOne : Nat) : Int) := by
        rw [Int.natCast_mul]
        exact Position.at.inj (Option.some.inj place)
      have positive := Nat.mul_pos hd unitsPerOne_pos
      cases s with
      | true =>
        simp only [Binary64.signedUnits, if_true] at units
        omega
      | false =>
        have units : m.units = d * unitsPerOne := Int.natCast_inj.1 units
        show Except.ok (Binary64.ofUnits false m.units d) = _
        rw [units, Binary64.ofUnits_of_round? one]

end Number

end FeatureGates
