import FeatureGates.FlagSet.Write
import FeatureGates.Proofs.Oversize

/-!
# Which numbers are percentages

Both wrappers of percentages take the numbers from 0 to 100, integers and
floating-point numbers alike, and keep them as they are. A number outside
that range is refused with its text in the message, and enabling a feature
for it leaves the world as it was (`Percentage.isChecked`).

One kind of number is neither taken nor refused. Whether a number is NaN is
asked before its range, in floating point, and an integer that rounds to
something beyond all floating-point numbers fails there. The least size of
such an integer is `leastTooLarge`: halfway between the greatest
floating-point number and the next power of two, where a tie goes to the
even one, which is the power of two.
-/

namespace FeatureGates

/-! Powers of natural numbers are the ones of core. -/

attribute [local instance (2000)] instPowNat

/-- The least size of an integer that has no nearest floating-point number. -/
def leastTooLarge : Nat := 2 ^ (1024 : Nat) - 2 ^ (970 : Nat)

theorem unitLimit_le_leastTooLarge :
    unitLimit ≤ roundToPrecision (leastTooLarge * unitsPerOne) 1 := by
  decide +kernel

theorem below_leastTooLarge_lt_unitLimit :
    roundToPrecision ((leastTooLarge - 1) * unitsPerOne) 1 < unitLimit := by
  decide +kernel

theorem leastTooLarge_pos : 0 < leastTooLarge := by
  decide +kernel

/-! The powers are not to be computed where terms are compared. -/

attribute [local irreducible] unitsPerOne unitLimit leastTooLarge Text.digitLimit

namespace Number

/-- An integer of a size that no floating-point number is near to. -/
def IsTooLarge : Number → Prop
  | .int k => leastTooLarge ≤ k.natAbs
  | .float _ => False

theorem fits_int_iff_lt {k : Int} : (int k).fits = true ↔ k.natAbs < leastTooLarge := by
  rw [fits_int_iff]
  constructor
  · intro bounded
    refine Nat.lt_of_not_le fun large => Nat.not_lt_of_le ?_ bounded
    exact Nat.le_trans unitLimit_le_leastTooLarge
      (roundToPrecision_mono 1 (Nat.mul_le_mul_right _ large))
  · intro small
    have positive := leastTooLarge_pos
    have below : k.natAbs ≤ leastTooLarge - 1 := by omega
    exact Nat.lt_of_le_of_lt (roundToPrecision_mono 1 (Nat.mul_le_mul_right _ below))
      below_leastTooLarge_lt_unitLimit

theorem fits_iff_not_isTooLarge {n : Number} : n.fits = true ↔ ¬n.IsTooLarge := by
  cases n with
  | int k => exact fits_int_iff_lt.trans Nat.not_le.symm
  | float x => exact iff_of_true rfl not_false

/-- What fits is not too long to write. -/
theorem exists_written_of_fits {n : Number} (h : n.fits = true) : ∃ text, n.written = .ok text := by
  cases n with
  | int k => exact ⟨toString k, if_pos (natAbs_lt_of_fits h)⟩
  | float x => exact ⟨x.written, rfl⟩

end Number

namespace Percentage

theorem ofNumber_of_isPercentage {n : Number} (inRange : n.isPercentage = true) :
    ofNumber n = .ok ⟨n, inRange⟩ :=
  ofNumber_value ⟨n, inRange⟩

theorem ofNumber_of_fits {n : Number} {text : String} (outside : n.isPercentage = false)
    (fits : n.fits = true) (written : n.written = .ok text) :
    ofNumber n = .error (.percentageOutOfRange text) := by
  obtain ⟨x, near⟩ := Number.exists_toBinary64 fits
  unfold ofNumber
  rw [Number.checkNaN_eq, near, written]
  refine dif_neg fun inRange => ?_
  rw [outside] at inRange
  exact Bool.false_ne_true inRange.2

theorem ofNumber_of_not_fits {n : Number} (large : n.fits = false) :
    ofNumber n = .error .intTooLarge := by
  unfold ofNumber
  rw [Number.checkNaN_of_not_fits large]
  rfl

/-- How a number is wrapped as a percentage, and a feature enabled for it. -/
structure IsChecked (wrap : Value → Except Failure Wrapped) (keep : Percentage → Wrapped)
    (enable : FlagSet → String → Value → Run Bool) (n : Number) : Prop where
  /-- A number in range is kept as it is. -/
  accepted : ∀ inRange : n.isPercentage = true, wrap (.number n) = .ok (keep ⟨n, inRange⟩)
  /-- A number out of range is refused, and nothing is written. -/
  refused : n.isPercentage = false → ¬n.IsTooLarge → ∃ text failure,
    n.written = .ok text ∧ wrap (.number n) = .error failure ∧
      failure.category = .flag ∧ failure.code? = some "INVALID_PERCENTAGE" ∧
      failure.text = "value must be a positive number less than or equal to 100, but was " ++ text ∧
      ∀ flags feature world, enable flags feature (.number n) world = .error failure world
  /-- An integer that is too large fails before its range is looked at; nothing is written. -/
  failed : n.IsTooLarge → n.isPercentage = false ∧ wrap (.number n) = .error .intTooLarge ∧
    ∀ flags feature world, enable flags feature (.number n) world = .error .intTooLarge world

/-- What is wrapped by `Percentage.ofNumber` and enabled in its wrapper is checked. -/
theorem isChecked_of_wrap {wrap : Value → Except Failure Wrapped} {keep : Percentage → Wrapped}
    {enable : FlagSet → String → Value → Run Bool}
    (wraps : ∀ n, wrap (.number n) = (ofNumber n).map keep)
    (enables : ∀ flags feature thing,
      enable flags feature thing = flags.changeWrapped feature .enable (wrap thing))
    (n : Number) : IsChecked wrap keep enable n := by
  have unwritten {failure} (h : wrap (.number n) = .error failure) (flags feature world) :
      enable flags feature (.number n) world = .error failure world := by
    rw [enables, h]
    rfl
  refine ⟨fun inRange => ?_, fun outside small => ?_, fun large => ?_⟩
  · rw [wraps, ofNumber_of_isPercentage inRange]
    rfl
  · have fits := Number.fits_iff_not_isTooLarge.2 small
    obtain ⟨text, written⟩ := Number.exists_written_of_fits fits
    have wrapped : wrap (.number n) = .error (.percentageOutOfRange text) := by
      rw [wraps, ofNumber_of_fits outside fits written]
      rfl
    exact ⟨text, _, written, wrapped, rfl, rfl, rfl, unwritten wrapped⟩
  · have unfit : n.fits = false := by
      rw [← Bool.not_eq_true, Number.fits_iff_not_isTooLarge]
      exact not_not_intro large
    have wrapped : wrap (.number n) = .error .intTooLarge := by
      rw [wraps, ofNumber_of_not_fits unfit]
      rfl
    refine ⟨?_, wrapped, unwritten wrapped⟩
    rw [← Bool.not_eq_true]
    intro inRange
    have accepted := ofNumber_of_isPercentage inRange
    rw [ofNumber_of_not_fits unfit] at accepted
    cases accepted

/-- Every number is checked as a percentage of actors and as one of time. -/
theorem isChecked (n : Number) :
    IsChecked Wrapped.wrapPercentageOfActors .percentageOfActors
        FlagSet.enablePercentageOfActors n ∧
      IsChecked Wrapped.wrapPercentageOfTime .percentageOfTime FlagSet.enablePercentageOfTime n :=
  ⟨isChecked_of_wrap (fun _ => rfl) (fun _ _ _ => rfl) n,
    isChecked_of_wrap (fun _ => rfl) (fun _ _ _ => rfl) n⟩

/-- An integer of 401 digits is out of range and yet not refused for that. -/
theorem wrapPercentage_enormous :
    (Number.int (10 ^ (400 : Nat) : Nat)).isPercentage = false ∧
      Wrapped.wrapPercentageOfActors (.number (.int (10 ^ (400 : Nat) : Nat))) =
        .error .intTooLarge ∧
      Wrapped.wrapPercentageOfTime (.number (.int (10 ^ (400 : Nat) : Nat))) = .error .intTooLarge ∧
      Failure.intTooLarge.code? ≠ some "INVALID_PERCENTAGE" := by
  have unfit : (Number.int (10 ^ (400 : Nat) : Nat)).fits = false := by decide +kernel
  have failed := congrArg (Except.map Wrapped.percentageOfActors) (ofNumber_of_not_fits unfit)
  have failed' := congrArg (Except.map Wrapped.percentageOfTime) (ofNumber_of_not_fits unfit)
  exact ⟨by decide +kernel, failed, failed', by decide⟩

end Percentage

end FeatureGates
