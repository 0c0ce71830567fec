import FeatureGates.Proofs.Catalog
import FeatureGates.Proofs.NumberText
import FeatureGates.Proofs.Order

/-!
# Percentages in writing

Every percentage is accepted as one again (`Percentage.ofNumber_value`),
and its text is always read as a number (`Percentage.exists_read`): as the
percentage itself if that is an integer or its text has a point, and as
another number if not.
-/

namespace FeatureGates

/-! Powers of natural numbers are the ones of core. -/

attribute [local instance (2000)] instPowNat

namespace Number

theorem bounds_of_isPercentage {n : Int} (h : (int n).isPercentage = true) : 0 ≤ n ∧ n ≤ 100 := by
  obtain ⟨low, high⟩ := Bool.and_eq_true_iff.1 h
  have low : (!decide (n * (unitsPerOne : Int) < 0 * (unitsPerOne : Int))) = true := low
  have high : (!decide (100 * (unitsPerOne : Int) < n * (unitsPerOne : Int))) = true := high
  have unit : (0 : Int) < unitsPerOne := Int.natCast_pos.2 (Nat.two_pow_pos _)
  simp only [Bool.not_eq_true', decide_eq_false_iff_not, Int.not_lt] at low high
  exact ⟨Int.le_of_mul_le_mul_right low unit, Int.le_of_mul_le_mul_right high unit⟩

theorem finite_of_isPercentage {x : Binary64} (h : (float x).isPercentage = true) :
    ∃ s m, x = .finite s m := by
  cases x with
  | finite s m => exact ⟨s, m, rfl⟩
  | nan => exact absurd h (by decide +kernel)
  | infinite s => cases s <;> exact absurd h (by decide +kernel)

theorem ok_of_toOption {ε α : Type} {result : Except ε α} {a : α} (h : result.toOption = some a) :
    result = .ok a := by
  cases result with
  | ok b => exact congrArg Except.ok (Option.some.inj h)
  | error failure => cases h

/-- A percentage is not NaN. It is asked one by one of the integers: opened
for any at once, the rounding of an integer would be computed in unary. -/
theorem checkNaN_of_isPercentage {n : Number} (h : n.isPercentage = true) :
    n.checkNaN = .ok false := by
  cases n with
  | int n =>
    have all : ∀ k : Fin 101, (int (k : Nat)).checkNaN.toOption = some false := by decide +kernel
    obtain ⟨low, high⟩ := bounds_of_isPercentage h
    have same : ((n.toNat : Nat) : Int) = n := Int.toNat_of_nonneg low
    have asked := all ⟨n.toNat, by omega⟩
    rw [same] at asked
    exact ok_of_toOption asked
  | float x =>
    obtain ⟨s, m, rfl⟩ := finite_of_isPercentage h
    rfl

end Number

namespace Percentage

theorem ofNumber_value (p : Percentage) : ofNumber p.value = .ok p := by
  obtain ⟨n, inRange⟩ := p
  show (do let isNaN ← n.checkNaN; _) = _
  rw [Number.checkNaN_of_isPercentage inRange]
  exact dif_pos ⟨rfl, inRange⟩

/-- The text of a percentage is read as an equal number just if it is an
integer or has a point, and then as the same number. -/
theorem exists_read (p : Percentage) :
    ∃ text q, p.value.written = .ok text ∧ Raw.leadingNumber text = .ok q ∧
      (q.eq p.value = true ↔ p.value.hasPoint = true) ∧
        (p.value.hasPoint = true → q = p.value) := by
  obtain ⟨n, inRange⟩ := p
  cases n with
  | int n =>
    have bounds := Number.bounds_of_isPercentage inRange
    have small : n.natAbs < 10 ^ Text.digitLimit := by
      have power : 10 ^ 3 ≤ 10 ^ Text.digitLimit := Nat.pow_le_pow_right (by decide) (by decide)
      omega
    have written : Text.writeInt n = .ok (toString n) := by
      rw [Text.writeInt, if_pos small]
    exact ⟨toString n, .int n, written, Raw.leadingNumber_of_writeInt written,
      iff_of_true ((Number.eq_self_iff _).2 rfl) rfl, fun _ => rfl⟩
  | float x =>
    obtain ⟨s, m, rfl⟩ := Number.finite_of_isPercentage inRange
    obtain ⟨q, read, same⟩ := Raw.leadingNumber_written s m
    refine ⟨_, q, rfl, read, same.trans List.contains_iff_mem.symm, fun point => ?_⟩
    have exact := Raw.leadingNumber_of_point (List.contains_iff_mem.1 point)
    exact Except.ok.inj (read.symm.trans exact)

end Percentage

end FeatureGates
