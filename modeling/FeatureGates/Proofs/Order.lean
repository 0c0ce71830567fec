import FeatureGates.Number.Basic

/-!
# The order of numbers

Numbers are compared by their places, integers and floating-point numbers
alike. NaN has no place: it is less than nothing and equal to nothing,
itself included (`Number.eq_self_iff`).
-/

namespace FeatureGates

/-! Powers of natural numbers are the ones of core. -/

attribute [local instance (2000)] instPowNat

theorem unitsPerOne_pos : 0 < unitsPerOne := Nat.two_pow_pos unitExponent

/-! The unit is not to be computed where terms are compared. -/

attribute [local irreducible] unitsPerOne

theorem Position.lt_of_le_of_lt {p q r : Position} (h : p.le q = true) (h' : q.lt r = true) :
    p.lt r = true := by
  cases p <;> cases q <;> cases r <;> simp [le, lt] at h h' ⊢
  omega

namespace Number

/-- Both are numbers proper if one is less. -/
theorem positions_of_lt {a b : Number} (h : a.lt b = true) :
    ∃ p q, a.position? = some p ∧ b.position? = some q ∧ p.lt q = true := by
  unfold lt at h
  split at h
  · exact ⟨_, _, ‹_›, ‹_›, h⟩
  · cases h

theorem lt_of_le_of_lt {a b c : Number} (h : a.le b = true) (h' : b.lt c = true) :
    a.lt c = true := by
  obtain ⟨q, r, hb, hc, less⟩ := positions_of_lt h'
  unfold le at h
  rw [hb] at h
  unfold lt
  rw [hc]
  cases ha : a.position? with
  | none => rw [ha] at h; cases h
  | some p =>
    rw [ha] at h
    exact Position.lt_of_le_of_lt h less

theorem lt_congr {a b c : Number} (h : b.position? = c.position?) : a.lt b = a.lt c := by
  unfold lt
  rw [h]

theorem pos_int_iff {n : Int} : lt (.int 0) (.int n) = true ↔ 0 < n := by
  show decide (0 * (unitsPerOne : Int) < n * unitsPerOne) = true ↔ _
  have unit : (0 : Int) < unitsPerOne := Int.natCast_pos.2 unitsPerOne_pos
  rw [decide_eq_true_eq]
  exact ⟨fun h => Int.lt_of_mul_lt_mul_right h (Int.le_of_lt unit),
    fun h => Int.mul_lt_mul_of_pos_right h unit⟩

theorem le_natCast (k : Nat) : le (.int 0) (.int k) = true := by
  show (!decide ((k : Int) * unitsPerOne < 0 * unitsPerOne)) = true
  have unit : (0 : Int) ≤ unitsPerOne := Int.natCast_nonneg _
  have nonneg := Int.mul_nonneg (Int.natCast_nonneg k) unit
  rw [Int.zero_mul, decide_eq_false (Int.not_lt.2 nonneg)]
  rfl

theorem positions_of_eq {a b : Number} (h : a.eq b = true) :
    ∃ p, a.position? = some p ∧ b.position? = some p := by
  unfold eq at h
  split at h
  · rename_i p q ha hb
    obtain rfl : p = q := of_decide_eq_true h
    exact ⟨p, ha, hb⟩
  · cases h

/-- A number that has a place in the order is equal to itself. -/
theorem eq_self_iff (n : Number) : n.eq n = true ↔ n.isNaN = false := by
  have placed {p : Position} (h : n.position? = some p) : n.eq n = true := by
    simp only [Number.eq, h, decide_true]
  cases n with
  | int n => exact iff_of_true (placed rfl) rfl
  | float x =>
    cases x with
    | nan => exact iff_of_false Bool.false_ne_true Bool.noConfusion
    | infinite s => exact iff_of_true (placed rfl) rfl
    | finite s m => exact iff_of_true (placed rfl) rfl

end Number

end FeatureGates
