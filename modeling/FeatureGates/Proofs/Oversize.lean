import FeatureGates.Proofs.Decisions
import FeatureGates.Proofs.ShortValues
import FeatureGates.Proofs.TextReading

/-!
# What is too large for an expression

Of the built-in operators two refuse arguments, those for dates and for
spans of time. A tree without them (`Node.isForgiving`) makes something of
every value, of null and of containers as well, with one exception: an
integer may be too large for a floating-point number, or too long for a
text. Then asking whether it is NaN fails, and writing it does. (A rollout
may fail as well, but over no value: over the name of the feature, if that
has surrogates.)

A value is *modest* if it does not count as such a number
(`Value.isModest`). Operators make nothing immodest of modest values: a
number that is written is read again at its own place, and what is rounded
down or taken a share of stays within bounds. So where the constants of a
tree and the properties are modest the tree has a value
(`Node.copes_evaluate`); and of an immodest property a tree can be made
that has none.

The induction is over the tree. It carries all of this at once: a check
copes (`Check.Copes`) if it gives something that is modest as far as its
inputs are, or else fails over something too large, and that only if its
inputs are not modest, or over the name.
-/

namespace FeatureGates

/-! Powers of natural numbers are the ones of core. -/

attribute [local instance (2000)] instPowNat

variable {α β : Type}

/-! ## Sizes -/

theorem Binary64.natAbs_signedUnits (s : Bool) (m : Magnitude) :
    (signedUnits s m).natAbs = m.units := by
  cases s with
  | true => exact (Int.natAbs_neg _).trans (Int.natAbs_natCast _)
  | false => exact Int.natAbs_natCast _

namespace Magnitude

/-- A size that is not whole is small. -/
theorem units_le_of_not_whole {m : Magnitude} (h : m.units % unitsPerOne ≠ 0) :
    m.units ≤ 2 ^ precision * unitsPerOne := by
  obtain ⟨digits, places, few, eq⟩ := m.representable
  have low : places < unitExponent := by
    refine Nat.lt_of_not_le fun high => h ?_
    rw [eq]
    exact Nat.mod_eq_zero_of_dvd (Nat.dvd_mul_left_of_dvd (Nat.pow_dvd_pow 2 high) digits)
  have power : 2 ^ places ≤ unitsPerOne := Nat.pow_le_pow_right (by decide) (Nat.le_of_lt low)
  rw [eq]
  exact Nat.mul_le_mul few power

end Magnitude

/-! The powers of two are not to be computed where terms are compared. -/

attribute [local irreducible] unitsPerOne unitLimit

/-! ## Numbers that fit -/

namespace Number

theorem fits_of_round? {k : Int} {m : Magnitude}
    (h : Magnitude.round? (k.natAbs * unitsPerOne) 1 = some m) : (int k).fits = true := by
  have near : Binary64.ofInt? k = some (.finite (k < 0) m) := congrArg (Option.map _) h
  generalize whole : int k = a
  unfold fits
  fun_cases toBinary64 a with
  | case1 n x nearest => rfl
  | case2 n nearest =>
    cases whole
    rw [near] at nearest
    cases nearest
  | case3 x => rfl

theorem fits_int_iff {k : Int} :
    (int k).fits = true ↔ roundToPrecision (k.natAbs * unitsPerOne) 1 < unitLimit := by
  constructor
  · intro fits
    obtain ⟨x, near⟩ := exists_toBinary64 fits
    obtain ⟨n, same, near⟩ | same := toBinary64_eq_ok near
    · cases same
      obtain ⟨m, rounded, -⟩ := Binary64.ofRatio?_eq_some near
      rw [← Magnitude.units_of_round? rounded]
      exact m.bounded
    · cases same
  · intro bounded
    have rounded : Magnitude.round? (k.natAbs * unitsPerOne) 1 =
        some ⟨_, bounded, roundToPrecision_eq _ _⟩ := dif_pos bounded
    exact fits_of_round? rounded

/-- An integer that is not above a size fits. -/
theorem fits_int_of_le {k : Int} {m : Magnitude} (h : k.natAbs * unitsPerOne ≤ m.units) :
    (int k).fits = true := by
  have rounded := roundToPrecision_mono 1 h
  rw [roundToPrecision_of_representable m.representable] at rounded
  exact fits_int_iff.2 (Nat.lt_of_le_of_lt rounded m.bounded)

theorem fits_int_mono {j k : Int} (h : j.natAbs ≤ k.natAbs) (fits : (int k).fits = true) :
    (int j).fits = true :=
  fits_int_iff.2 (Nat.lt_of_le_of_lt
    (roundToPrecision_mono 1 (Nat.mul_le_mul_right _ h)) (fits_int_iff.1 fits))

/-- An integer that fits is not too long to write. -/
theorem natAbs_lt_of_fits {k : Int} (h : (int k).fits = true) :
    k.natAbs < 10 ^ Text.digitLimit := by
  rw [fits_int_iff] at h
  refine Nat.lt_of_not_le fun long => Nat.not_lt_of_le ?_ h
  refine unitLimit_le_roundToPrecision ?_
  have large := Binary64.unitLimit_le 1 Text.digitLimit (by decide) (by decide)
  rw [Nat.one_mul] at large
  rw [Nat.div_one]
  exact Nat.le_trans large (Nat.mul_le_mul_right _ long)

/-- Numbers at one place fit alike. -/
theorem fits_of_position? {a b : Number} (same : a.position? = b.position?)
    (h : b.fits = true) : a.fits = true := by
  cases a with
  | float x => rfl
  | int k =>
    cases b with
    | int l =>
      have units : k * (unitsPerOne : Int) = l * unitsPerOne :=
        Position.at.inj (Option.some.inj same)
      have positive : (unitsPerOne : Int) ≠ 0 := Int.ne_of_gt (Int.natCast_pos.2 unitsPerOne_pos)
      rwa [Int.eq_of_mul_eq_mul_right positive units]
    | float x =>
      cases x with
      | nan => cases same
      | infinite s => cases s <;> cases same
      | finite s m =>
        have units : k * (unitsPerOne : Int) = Binary64.signedUnits s m :=
          Position.at.inj (Option.some.inj same)
        refine fits_int_of_le (m := m) (Nat.le_of_eq ?_)
        have sizes := congrArg Int.natAbs units
        rwa [Int.natAbs_mul, Int.natAbs_natCast, Binary64.natAbs_signedUnits] at sizes

theorem fits_of_checkFinite {n : Number} {b : Bool} (h : n.checkFinite = .ok b) :
    n.fits = true := by
  unfold checkFinite at h
  unfold fits
  cases near : n.toBinary64 with
  | ok x => rfl
  | error failure =>
    rw [near] at h
    cases h

end Number

/-! ## Rounding down, and shares -/

/-- The quotient of a number of at most so many units, rounded down. -/
theorem natAbs_ediv_le {z : Int} {unit count : Nat} (hu : 0 < unit)
    (h : z.natAbs ≤ count * unit) : (z / unit).natAbs ≤ count := by
  have positive : (0 : Int) < unit := Int.natCast_pos.2 hu
  have bound : (z.natAbs : Int) ≤ count * unit := by
    rw [← Int.natCast_mul]
    exact Int.ofNat_le.2 h
  have low : -(count : Int) ≤ z / unit := by
    refine Int.le_ediv_of_mul_le positive ?_
    rw [Int.neg_mul]
    omega
  have high : z / unit ≤ count := Int.ediv_le_of_le_mul positive (by omega)
  omega

namespace Number

/-- What is rounded down fits. -/
theorem exists_floor {n : Number} (finite : n.checkFinite = .ok true) :
    ∃ k, n.floor = .ok k ∧ (int k).fits = true := by
  cases n with
  | int k => exact ⟨k, rfl, fits_of_checkFinite finite⟩
  | float x =>
    cases x with
    | nan => cases finite
    | infinite s => cases finite
    | finite s m =>
      have size := Binary64.natAbs_signedUnits s m
      refine ⟨_, rfl, ?_⟩
      rw [Int.fdiv_eq_ediv_of_nonneg _ (Int.natCast_nonneg _)]
      by_cases whole : m.units % unitsPerOne = 0
      · have divides : (unitsPerOne : Int) ∣ Binary64.signedUnits s m := by
          rw [← Int.dvd_natAbs, size]
          exact Int.natCast_dvd_natCast.2 (Nat.dvd_of_mod_eq_zero whole)
        refine fits_int_of_le (m := m) (Nat.le_of_eq ?_)
        rw [← size, ← Int.natAbs_natCast unitsPerOne, ← Int.natAbs_mul, Int.natAbs_natCast,
          Int.ediv_mul_cancel divides]
      · have few := Magnitude.units_le_of_not_whole whole
        rw [← size] at few
        have large : (int (2 ^ precision : Nat)).fits = true := by decide +kernel
        refine fits_int_mono ?_ large
        rw [Int.natAbs_natCast]
        exact natAbs_ediv_le unitsPerOne_pos few

end Number

/-- A share of a finite number is finite. -/
theorem Binary64.isFinite_mul (s t : Bool) {m : Magnitude} (k : Magnitude)
    (share : m.units ≤ unitsPerOne) : ((finite s m).mul (finite t k)).isFinite = true := by
  have bounded : roundToPrecision (m.units * k.units) unitsPerOne < unitLimit := by
    calc roundToPrecision (m.units * k.units) unitsPerOne
        ≤ roundToPrecision (k.units * unitsPerOne) (1 * unitsPerOne) := by
          rw [Nat.one_mul, Nat.mul_comm k.units]
          exact roundToPrecision_mono _ (Nat.mul_le_mul_right _ share)
      _ = roundToPrecision k.units 1 := roundToPrecision_scale _ _ unitsPerOne_pos
      _ = k.units := roundToPrecision_of_representable k.representable
      _ < unitLimit := k.bounded
  have rounded : Magnitude.round? (m.units * k.units) unitsPerOne =
      some ⟨_, bounded, roundToPrecision_eq _ _⟩ := dif_pos bounded
  show (ofUnits (s != t) (m.units * k.units) unitsPerOne).isFinite = true
  rw [ofUnits_of_round? rounded]
  rfl

namespace Number

/-- Where numbers from zero to one stand. -/
theorem exists_position_of_share {n : Number} (low : le (.int 0) n = true)
    (high : n.lt (.int 1) = true) :
    ∃ units : Nat, units < unitsPerOne ∧ n.position? = some (.at units) := by
  obtain ⟨p, q, place, one, below⟩ := positions_of_lt high
  cases one
  unfold le at low
  rw [place] at low
  cases p with
  | bottom => cases low
  | top => cases below
  | «at» units =>
    have below : units < 1 * (unitsPerOne : Int) := of_decide_eq_true below
    have low : (!decide (units < 0 * (unitsPerOne : Int))) = true := low
    rw [Bool.not_eq_true', decide_eq_false_iff_not] at low
    refine ⟨units.toNat, by omega, ?_⟩
    rw [place, Int.toNat_of_nonneg (by omega)]

/-- The only integer from zero to one is zero. -/
theorem eq_zero_of_share {d : Int} {units : Nat} (few : units < unitsPerOne)
    (place : position? (.int d) = some (.at units)) : d = 0 := by
  have same : d * (unitsPerOne : Int) = units := Position.at.inj (Option.some.inj place)
  have low : 0 < (d + 1) * (unitsPerOne : Int) := by
    rw [Int.add_mul, Int.one_mul]
    omega
  have high : d * (unitsPerOne : Int) < 1 * unitsPerOne := by omega
  have unit : (0 : Int) < unitsPerOne := Int.natCast_pos.2 unitsPerOne_pos
  have above := Int.pos_of_mul_pos_left low unit
  have below := Int.lt_of_mul_lt_mul_right high (Int.le_of_lt unit)
  omega

/-- Numbers from zero to one are no larger than one in floating point. -/
theorem toBinary64_of_share {n : Number} {units : Nat} (few : units < unitsPerOne)
    (place : n.position? = some (.at units)) :
    ∃ s m, n.toBinary64 = .ok (.finite s m) ∧ m.units ≤ unitsPerOne := by
  cases n with
  | int d =>
    obtain rfl := eq_zero_of_share few place
    exact ⟨false, .zero, ok_of_toOption (by decide +kernel), Nat.zero_le _⟩
  | float x =>
    cases x with
    | nan => cases place
    | infinite s => cases s <;> cases place
    | finite s m =>
      have same : Binary64.signedUnits s m = units := Position.at.inj (Option.some.inj place)
      refine ⟨s, m, rfl, ?_⟩
      rw [← Binary64.natAbs_signedUnits s m, same, Int.natAbs_natCast]
      exact Nat.le_of_lt few

theorem exists_finite_of_checkFinite {n : Number} (h : n.checkFinite = .ok true) :
    ∃ s m, n.toBinary64 = .ok (.finite s m) := by
  obtain ⟨x, near⟩ := exists_toBinary64 (fits_of_checkFinite h)
  unfold checkFinite at h
  rw [near] at h
  cases x with
  | nan => cases h
  | infinite s => cases h
  | finite s m => exact ⟨s, m, near⟩

/-- A share of a finite number can be taken, and is finite. -/
theorem exists_share {share whole : Number} (low : le (.int 0) share = true)
    (high : share.lt (.int 1) = true) (finite : whole.checkFinite = .ok true) :
    ∃ p, share.mul whole = .ok p ∧ p.checkFinite = .ok true := by
  obtain ⟨units, few, place⟩ := exists_position_of_share low high
  obtain ⟨s, m, near, small⟩ := toBinary64_of_share few place
  obtain ⟨t, k, near'⟩ := exists_finite_of_checkFinite finite
  have scaled : (Number.float ((Binary64.finite s m).mul (.finite t k))).checkFinite = .ok true :=
    congrArg Except.ok (Binary64.isFinite_mul s t k small)
  -- two integers are multiplied exactly, and anything else in floating point
  have rounded (same : share.mul whole =
      (do return .float ((← share.toBinary64).mul (← whole.toBinary64)))) :
      ∃ p, share.mul whole = .ok p ∧ p.checkFinite = .ok true := by
    refine ⟨_, ?_, scaled⟩
    rw [same, near, near']
    rfl
  cases share with
  | float x => exact rounded rfl
  | int d =>
    cases whole with
    | float y => exact rounded rfl
    | int n =>
      obtain rfl := eq_zero_of_share few place
      refine ⟨.int (0 * n), rfl, ?_⟩
      rw [Int.zero_mul]
      exact ok_of_toOption (by decide +kernel)

end Number

/-! ## Texts of values -/

/-! The longest integer is not to be computed. -/

attribute [local irreducible] Text.digitLimit

theorem Number.bounded_toText (n : Number) : Bounded False Any n.toText := by
  unfold toText
  split
  · exact Text.bounded_writeInt False.elim
  · exact trivial
  · exact trivial
  · split <;> exact trivial

namespace Value

mutual

theorem bounded_toText : ∀ value : Value, Bounded False Any value.toText
  | .null => by
    rw [toText]
    exact trivial
  | .bool _ => by
    rw [toText]
    exact trivial
  | .number n => by
    rw [toText]
    exact n.bounded_toText
  | .text _ => by
    rw [toText]
    exact trivial
  | .list items => by
    rw [toText]
    exact (bounded_toTexts items).bind fun _ _ => trivial
  | .tuple items => by
    rw [toText]
    exact (bounded_toTexts items).bind fun _ _ => trivial
  | .set items => bounded_written (.set items) False.elim
  | .record entries => bounded_written (.record entries) False.elim
  | .actor id properties => bounded_written (.actor id properties) False.elim
  | .object attributes => bounded_written (.object attributes) False.elim
  | .node tree => bounded_written (.node tree) False.elim
  | .wrapped thing => bounded_written (.wrapped thing) False.elim

theorem bounded_toTexts : ∀ items : List Value, Bounded False Any (toTexts items)
  | [] => by
    rw [toTexts]
    exact trivial
  | item :: rest => by
    rw [toTexts]
    exact (bounded_toText item).bind fun _ _ => (bounded_toTexts rest).bind fun _ _ => trivial

end

end Value

/-! ## Modest values -/

namespace Value

/-- The number that the value counts as is none that is too large for a floating-point number. -/
def isModest (value : Value) : Bool :=
  match value.toNumber with
  | .ok n => n.fits
  | .error _ => false

theorem isModest_null : isModest .null = true := by decide +kernel

theorem isModest_bool (b : Bool) : (Value.bool b).isModest = true := by
  cases b <;> decide +kernel

theorem isModest_empty : (Value.text "").isModest = true := by decide +kernel

/-- The text of a number that fits is modest. -/
theorem isModest_toText {n : Number} (fits : n.fits = true) {text : String}
    (h : n.toText = .ok text) : (Value.text text).isModest = true :=
  Number.fits_of_position? (Number.position?_readNumber h) fits

end Value

section

variable {M : Prop} {n : Number} {value : Value}

/-- Where a modest number is asked for, the other failures are beside the point. -/
theorem Bounded.of_modest {P : α → Prop} {result : Except Failure α}
    (h : Bounded False Any result) (modest : M → ∃ a, result = .ok a)
    (hP : ∀ a, result = .ok a → P a) : Bounded M P result := by
  cases result with
  | ok a => exact hP a rfl
  | error failure =>
    refine ⟨h.1, fun m => ?_⟩
    obtain ⟨a, same⟩ := modest m
    cases same

namespace Number

theorem eq_intTooLarge_of_toBinary64 {failure : Failure} (h : n.toBinary64 = .error failure) :
    failure = .intTooLarge := by
  revert h
  fun_cases toBinary64 n with
  | case1 => exact fun h => by cases h
  | case2 => exact fun h => (Except.error.inj h).symm
  | case3 => exact fun h => by cases h

theorem checkNaN_of_not_fits (h : n.fits = false) : n.checkNaN = .error .intTooLarge := by
  unfold fits at h
  unfold checkNaN
  cases near : n.toBinary64 with
  | ok x =>
    rw [near] at h
    cases h
  | error failure =>
    obtain rfl := eq_intTooLarge_of_toBinary64 near
    rfl

theorem bounded_toBinary64 (h : M → n.fits = true) : Bounded M Any n.toBinary64 := by
  have oversize : Bounded False Any n.toBinary64 := by
    cases near : n.toBinary64 with
    | ok x => exact trivial
    | error failure =>
      obtain rfl := eq_intTooLarge_of_toBinary64 near
      exact ⟨rfl, id⟩
  exact oversize.of_modest (fun m => exists_toBinary64 (h m)) fun _ _ => trivial

theorem bounded_checkNaN (h : M → n.fits = true) : Bounded M Any n.checkNaN :=
  (bounded_toBinary64 h).map fun _ _ => trivial

theorem bounded_checkFinite (h : M → n.fits = true) :
    Bounded M (fun finite => n.checkFinite = .ok finite) n.checkFinite :=
  Bounded.self ((bounded_toBinary64 h).map (Q := Any) fun _ _ => trivial)

/-- A number that fits can be written, and what is read again fits. -/
theorem bounded_toText_modest (h : M → n.fits = true) :
    Bounded M (fun text => M → (Value.text text).isModest = true) n.toText := by
  refine n.bounded_toText.of_modest (fun m => ?_) fun text written m =>
    Value.isModest_toText (h m) written
  unfold toText
  split
  · exact ⟨_, if_pos (natAbs_lt_of_fits (h m))⟩
  · exact ⟨_, rfl⟩
  · exact ⟨_, rfl⟩
  · split
    · exact ⟨_, rfl⟩
    · exact ⟨_, rfl⟩

end Number

namespace Value

theorem bounded_toNumber (h : M → value.isModest = true) :
    Bounded M (fun n => M → n.fits = true) value.toNumber := by
  have oversize : Bounded False Any value.toNumber := by
    unfold toNumber
    split
    · exact trivial
    · exact trivial
    · exact trivial
    · exact trivial
    · exact (bounded_toText _).bind fun _ _ => trivial
    · exact (bounded_toText _).bind fun _ _ => trivial
    · exact trivial
  unfold isModest at h
  refine oversize.of_modest (fun m => ?_) fun n counted m => ?_
  · cases counted : value.toNumber with
    | ok n => exact ⟨n, rfl⟩
    | error failure =>
      rw [counted] at h
      cases h m
  · rw [counted] at h
    exact h m

theorem bounded_truthy (h : M → value.isModest = true) : Bounded M Any value.truthy := by
  unfold truthy
  split
  · exact trivial
  · exact trivial
  · rename_i n
    split
    · exact trivial
    · exact (Number.bounded_checkNaN (n := n) h).map fun _ _ => trivial
  · exact trivial
  · exact trivial

/-- The truth of an integer that is too large is not told. -/
theorem truthy_of_not_fits (large : n.fits = false) (someSize : n.isZero = false) :
    (Value.number n).truthy = .error .intTooLarge := by
  have asked : (Value.number n).truthy =
      if n.isZero then .ok false else n.checkNaN.map (!·) := rfl
  rw [asked, someSize, Number.checkNaN_of_not_fits large]
  rfl

/-- A text that a value counts as, or another. -/
theorem bounded_textOr {other : String} (modest : (Value.text other).isModest = true)
    (h : M → value.isModest = true) :
    Bounded M (fun text => M → (Value.text text).isModest = true)
      (Meaning.textOr other value) := by
  unfold Meaning.textOr
  split
  · exact h
  · rename_i n
    exact Number.bounded_toText_modest (n := n) h
  · exact fun _ => modest

end Value

end

/-! ## Checks that cope -/

/-- Draws are fair and the clock shows a time. -/
structure Surroundings.Ordinary (s : Surroundings) : Prop where
  fair : s.Fair
  clock : s.clock.checkFinite = .ok true

/-- Every draw and the clock are zero. -/
theorem Surroundings.ordinary_still : Ordinary ⟨fun _ => .int 0, 0, .int 0, [], []⟩ := by
  have draws : Number.le (.int 0) (.int 0) = true ∧ (Number.int 0).lt (.int 1) = true := by
    decide +kernel
  exact ⟨fun _ => draws, Number.ok_of_toOption (by decide +kernel)⟩

namespace Check

/-- In ordinary surroundings the check gives something of which `Q` is so; or it fails over
something too large, and that only where `M` is not so, or over what cannot be encoded, and that
only where `N` is not so. -/
def Copes (M N : Prop) (Q : α → Prop) (check : Check α) : Prop :=
  ∀ s, s.Ordinary → match check s with
    | .ok a s' => Q a ∧ s'.Ordinary
    | .error failure _ =>
      failure.isOversize = true ∧ ¬M ∨ failure.category = .encoding ∧ ¬N

namespace Copes

variable {M N : Prop} {P : α → Prop} {Q : β → Prop} {check : Check α}

theorem pure {a : α} (h : P a) : Copes M N P (Pure.pure a) := fun _ ordinary => ⟨h, ordinary⟩

theorem bind {f : α → Check β} (h : Copes M N P check) (hf : ∀ a, P a → Copes M N Q (f a)) :
    Copes M N Q (check >>= f) := by
  intro s ordinary
  have first := h s ordinary
  rw [bind_apply]
  cases ran : check s with
  | ok a s' =>
    rw [ran] at first
    exact hf a first.1 s' first.2
  | error failure s' =>
    rw [ran] at first
    exact first

theorem ofExcept {result : Except Failure α} (h : Bounded M P result) :
    Copes M N P (Check.ofExcept result) := by
  cases result with
  | ok a => exact pure h
  | error failure => exact fun _ _ => .inl h

end Copes

variable {M N : Prop}

theorem copes_draw :
    Copes M N (fun n => Number.le (.int 0) n = true ∧ n.lt (.int 1) = true) Check.draw :=
  fun s ordinary => ⟨ordinary.fair s.drawn, ordinary.fair, ordinary.clock⟩

theorem copes_now : Copes M N (fun n => n.checkFinite = .ok true) Check.now :=
  fun _ ordinary => ⟨ordinary.clock, ordinary⟩

/-- Rollouts fail over what cannot be encoded. -/
theorem copes_includes {feature : CodePoints} (named : N → feature.isText = true) (actor : String)
    (percentage : Number) :
    Copes M N Any (Check.ofExcept (Rollout.includes feature actor percentage)) := by
  cases known : feature.isText with
  | true =>
    obtain ⟨included, told⟩ := Rollout.exists_includes known actor percentage
    rw [told]
    exact .pure trivial
  | false =>
    rw [Rollout.includes_of_not_isText known]
    refine fun _ _ => .inr ⟨CodePoints.category_unencodable _, fun n => ?_⟩
    rw [named n] at known
    cases known

end Check

/-- An operand is modest where `M` is so. -/
def Operand.ModestIf (M : Prop) (a : Operand) : Prop := M → a.value.isModest = true

/-- All of some arguments cope, and give operands that are modest where `M` is so. -/
def Arguments.Cope (M N : Prop) (args : Arguments) : Prop :=
  ∀ arg ∈ args, Check.Copes M N (Operand.ModestIf M) arg

namespace Meaning

open Check

variable {M N : Prop} {args : Arguments}

theorem modest_answer (b : Bool) : (answer b).ModestIf M := fun _ => Value.isModest_bool b

section

variable (h : args.Cope M N)

include h

theorem copes_argument (index : Nat) : Copes M N (Operand.ModestIf M) (argument args index) := by
  unfold argument
  cases at_index : args[index]? with
  | none => exact .pure fun _ => Value.isModest_null
  | some arg => exact h arg (List.mem_of_getElem? at_index)

theorem copes_argumentValue (index : Nat) :
    Copes M N (fun value => M → value.isModest = true) (argumentValue args index) :=
  (copes_argument h index).bind fun _ modest => .pure modest

theorem copes_argumentNumber (index : Nat) :
    Copes M N (fun n => M → n.fits = true) (argumentNumber args index) :=
  (copes_argumentValue h index).bind fun _ modest => .ofExcept (Value.bounded_toNumber modest)

theorem copes_anyIs (stop : Bool) : Copes M N Any (anyIs stop args) := by
  induction args with
  | nil => exact .pure trivial
  | cons arg rest ih =>
    refine (h arg List.mem_cons_self).bind fun a modest => ?_
    refine (Copes.ofExcept (Value.bounded_truthy modest)).bind fun holds _ => ?_
    split
    · exact .pure trivial
    · exact ih fun arg mem => h arg (List.mem_cons_of_mem _ mem)

theorem copes_compare (relation : Operand → Operand → Bool) :
    Copes M N (Operand.ModestIf M) (compare args relation) :=
  (copes_argument h 0).bind fun _ _ => (copes_argument h 1).bind fun _ _ =>
    .pure (modest_answer _)

theorem copes_boolean (context : EvaluationContext) :
    Copes M N (Operand.ModestIf M) (ofBuiltin context .boolean args) :=
  (copes_argumentValue h 0).bind fun _ modest =>
    (Copes.ofExcept (Value.bounded_truthy modest)).bind fun _ _ => .pure (modest_answer _)

theorem copes_toNumber : Copes M N (Operand.ModestIf M) (toNumber args) := by
  refine (copes_argumentNumber h 0).bind fun n fits => ?_
  refine (Copes.ofExcept (Number.bounded_checkNaN fits)).bind fun nan _ => ?_
  split
  · exact .pure fun _ => by decide +kernel
  · exact .pure fits

theorem copes_toText : Copes M N (Operand.ModestIf M) (toText args) := by
  refine (copes_argumentValue h 0).bind fun value modest => ?_
  split
  · rename_i b
    refine .pure fun _ => ?_
    cases b <;> decide +kernel
  · exact (Copes.ofExcept (Value.bounded_textOr Value.isModest_empty modest)).bind
      fun _ modest => .pure modest

theorem copes_property {feature : Option CodePoints} {bag : Entries}
    (modest : ∀ key, M → (Entries.get bag key).isModest = true) :
    Copes M N (Operand.ModestIf M) (property ⟨feature, .record bag⟩ args) := by
  refine (copes_argumentValue h 0).bind fun value own => ?_
  refine (Copes.ofExcept (Value.bounded_textOr Value.isModest_empty own)).bind fun key _ => ?_
  exact .pure (modest key)

/-- A share of what fits fits. -/
theorem copes_random : Copes M N (Operand.ModestIf M) (random args) := by
  refine (copes_argumentNumber h 0).bind fun maximum fits => ?_
  refine (Copes.ofExcept (Number.bounded_checkFinite fits)).bind fun finite told => ?_
  split
  · exact .pure fun _ => by decide +kernel
  · rename_i open_end
    have finite : finite = true := by
      cases finite with
      | true => rfl
      | false => exact absurd rfl open_end
    rw [finite] at told
    refine copes_draw.bind fun drawn fair => ?_
    have scaled := Number.exists_share fair.1 fair.2 told
    refine (Copes.ofExcept (.of_exists scaled)).bind fun p finite => ?_
    have floor := Number.exists_floor finite
    exact (Copes.ofExcept (.of_exists floor)).bind fun _ fits => .pure fun _ => fits

theorem copes_percentage : Copes M N (Operand.ModestIf M) (percentage args) :=
  (copes_argumentNumber h 0).bind fun _ _ => (copes_argumentNumber h 1).bind fun _ _ =>
    .pure (modest_answer _)

theorem copes_percentageOfActors {context : EvaluationContext}
    (named : N → (context.feature.getD "").isText = true) :
    Copes M N (Operand.ModestIf M) (percentageOfActors context args) := by
  refine (copes_argumentValue h 0).bind fun value modest => ?_
  refine (Copes.ofExcept (Value.bounded_textOr Value.isModest_empty modest)).bind fun id _ => ?_
  refine (copes_argumentNumber h 1).bind fun share fits => ?_
  split
  · exact .pure (modest_answer _)
  · refine (Copes.ofExcept (Number.bounded_checkNaN fits)).bind fun nan _ => ?_
    split
    · exact .pure (modest_answer _)
    · refine Copes.bind (copes_includes named id share) fun included _ => ?_
      exact .pure (modest_answer _)

end

theorem copes_now : Copes M N (Operand.ModestIf M) now := by
  refine Check.copes_now.bind fun clock finite => ?_
  have floor := Number.exists_floor finite
  exact (Copes.ofExcept (.of_exists floor)).bind fun _ fits => .pure fun _ => fits

/-- The built-in operators cope, but for those of dates and spans of time. -/
theorem copes_ofBuiltin (h : args.Cope M N) {feature : Option CodePoints} {bag : Entries}
    (modest : ∀ key, M → (Entries.get bag key).isModest = true)
    (named : N → (feature.getD "").isText = true) {operator : Builtin}
    (noSpan : operator ≠ .duration) (noDate : operator ≠ .time) :
    Copes M N (Operand.ModestIf M) (ofBuiltin ⟨feature, .record bag⟩ operator args) := by
  cases operator with
  | all => exact (copes_anyIs h false).bind fun _ _ => .pure (modest_answer _)
  | any => exact (copes_anyIs h true).bind fun _ _ => .pure (modest_answer _)
  | boolean => exact copes_boolean h _
  | duration => exact absurd rfl noSpan
  | equal => exact copes_compare h _
  | greaterThan => exact copes_compare h _
  | greaterThanOrEqualTo => exact copes_compare h _
  | lessThan => exact copes_compare h _
  | lessThanOrEqualTo => exact copes_compare h _
  | notEqual => exact copes_compare h _
  | now => exact copes_now
  | number => exact copes_toNumber h
  | percentage => exact copes_percentage h
  | percentageOfActors => exact copes_percentageOfActors h named
  | property => exact copes_property h modest
  | random => exact copes_random h
  | string => exact copes_toText h
  | time => exact absurd rfl noDate

end Meaning

/-! ## Trees -/

namespace Node

mutual

/-- The operators are built in, and none refuses its arguments: there are no dates and no spans of
time. -/
def isForgiving : Node → Bool
  | .constant _ => true
  | .call (.builtin operator) args =>
    operator ≠ .duration && operator ≠ .time && areForgiving args
  | .call (.custom _) _ => false

def areForgiving : List Node → Bool
  | [] => true
  | arg :: rest => isForgiving arg && areForgiving rest

end

mutual

/-- The scalars at the leaves. -/
def constants : Node → List Scalar
  | .constant value => [value]
  | .call _ args => constantsOfAll args

def constantsOfAll : List Node → List Scalar
  | [] => []
  | arg :: rest => constants arg ++ constantsOfAll rest

end

section

variable {M : Prop} {feature : Option CodePoints} {bag : Entries}

mutual

/-- A tree of such operators copes with the name, the constants and the properties that there
are. -/
theorem copes_evaluate (modest : ∀ key, M → (Entries.get bag key).isModest = true)
    (meaning : Meaning) : ∀ tree : Node, tree.isForgiving = true →
    (∀ value ∈ tree.constants, M → (Value.scalar value).isModest = true) →
      Check.Copes M ((feature.getD "").isText = true) (Operand.ModestIf M)
        (tree.evaluate meaning ⟨feature, .record bag⟩)
  | .constant value, _, own => .pure (own value List.mem_cons_self)
  | .call (.builtin operator) args, forgiving, own => by
    simp only [isForgiving, Bool.and_eq_true, decide_eq_true_eq] at forgiving
    obtain ⟨⟨noSpan, noDate⟩, forgiving⟩ := forgiving
    exact Meaning.copes_ofBuiltin (cope_evaluateAll modest meaning args forgiving own) modest id
      noSpan noDate
  | .call (.custom _) _, forgiving, _ => by
    simp only [isForgiving] at forgiving
    cases forgiving

theorem cope_evaluateAll (modest : ∀ key, M → (Entries.get bag key).isModest = true)
    (meaning : Meaning) : ∀ args : List Node, areForgiving args = true →
    (∀ value ∈ constantsOfAll args, M → (Value.scalar value).isModest = true) →
      (evaluateAll meaning ⟨feature, .record bag⟩ args).Cope M ((feature.getD "").isText = true)
  | [], _, _ => fun _ mem => absurd mem List.not_mem_nil
  | arg :: rest, forgiving, own => by
    obtain ⟨first, others⟩ := Bool.and_eq_true_iff.1 forgiving
    intro check mem
    rcases List.mem_cons.1 mem with rfl | mem
    · exact copes_evaluate modest meaning arg first fun value mem =>
        own value (List.mem_append_left _ mem)
    · exact cope_evaluateAll modest meaning rest others
        (fun value mem => own value (List.mem_append_right _ mem)) check mem

end

end

/-- What is immodest fails where its number is asked for. -/
theorem evaluate_number_of_immodest (meaning : Meaning) (feature : Option CodePoints)
    {bag : Entries} {key : String} (immodest : (Entries.get bag key).isModest = false)
    (s : Surroundings) :
    ∃ failure, (Node.call (.builtin .number)
        [.call (.builtin .property) [.constant (.text key)]]).evaluate meaning
        ⟨feature, .record bag⟩ s = .error failure s := by
  have asked : (Node.call (.builtin .number)
      [.call (.builtin .property) [.constant (.text key)]]).evaluate meaning
      ⟨feature, .record bag⟩ = (do
        let n ← Check.ofExcept (Entries.get bag key).toNumber
        if ← Check.ofExcept n.checkNaN then return .fresh (.int 0)
        else return .fresh (.number n)) := rfl
  rw [asked]
  unfold Value.isModest at immodest
  cases counted : (Entries.get bag key).toNumber with
  | error failure => exact ⟨failure, rfl⟩
  | ok n =>
    rw [counted] at immodest
    refine ⟨.intTooLarge, ?_⟩
    show (Check.ofExcept n.checkNaN >>= _) s = _
    rw [Number.checkNaN_of_not_fits immodest]
    rfl

/-- In ordinary surroundings a tree of built-in operators, without dates and spans of time, has a
value, whatever the properties are; or it fails over something too large, and then one of its
constants or one of the properties counts as a number that is too large; or over the feature's
name, and then that has surrogates. Of each property that is too large there is a tree that
fails. -/
theorem evaluate_forgiving {tree : Node} (forgiving : tree.isForgiving = true) (meaning : Meaning)
    (feature : Option CodePoints) (bag : Entries) {s : Surroundings} (ordinary : s.Ordinary) :
    ((∃ a s', tree.evaluate meaning ⟨feature, .record bag⟩ s = .ok a s') ∨
      ∃ failure s', tree.evaluate meaning ⟨feature, .record bag⟩ s = .error failure s' ∧
        (failure.isOversize = true ∧
          ((∃ value ∈ tree.constants, (Value.scalar value).isModest = false) ∨
            ∃ key, (Entries.get bag key).isModest = false) ∨
          failure.category = .encoding ∧ (feature.getD "").isText = false)) ∧
      ∀ key, (Entries.get bag key).isModest = false → ∀ t, ∃ failure,
        (Node.call (.builtin .number)
          [.call (.builtin .property) [.constant (.text key)]]).evaluate meaning
          ⟨feature, .record bag⟩ t = .error failure t := by
  refine ⟨?_, fun key => evaluate_number_of_immodest meaning feature⟩
  have copes : Check.Copes ((∀ value ∈ tree.constants, (Value.scalar value).isModest = true) ∧
      ∀ key, (Entries.get bag key).isModest = true) _ (Operand.ModestIf _)
      (tree.evaluate meaning ⟨feature, .record bag⟩) :=
    copes_evaluate (fun key modest => modest.2 key) meaning tree forgiving
      fun value mem modest => modest.1 value mem
  have copes := copes s ordinary
  cases ran : tree.evaluate meaning ⟨feature, .record bag⟩ s with
  | ok a s' => exact .inl ⟨a, s', rfl⟩
  | error failure s' =>
    rw [ran] at copes
    rcases copes.symm with ⟨encoding, named⟩ | ⟨oversize, immodest⟩
    · exact .inr ⟨failure, s', rfl, .inr ⟨encoding, Bool.eq_false_iff.2 named⟩⟩
    refine .inr ⟨failure, s', rfl, .inl ⟨oversize, ?_⟩⟩
    by_cases own : ∀ value ∈ tree.constants, (Value.scalar value).isModest = true
    · by_cases properties : ∀ key, (Entries.get bag key).isModest = true
      · exact absurd ⟨own, properties⟩ immodest
      · obtain ⟨key, not⟩ := Classical.not_forall.1 properties
        exact .inr ⟨key, Bool.eq_false_iff.2 not⟩
    · obtain ⟨value, not⟩ := Classical.not_forall.1 own
      obtain ⟨mem, not⟩ := Classical.not_imp.1 not
      exact .inl ⟨value, mem, Bool.eq_false_iff.2 not⟩

/-- Whether a random number below the limit is above the number of the tags. -/
def limitOverTags : Node :=
  .call (.builtin .greaterThan) [
    .call (.builtin .random) [.call (.builtin .property) [.constant (.text "limit")]],
    .call (.builtin .number) [.call (.builtin .property) [.constant (.text "tags")]]]

/-- The limit is a text beyond all floating-point numbers, and the tags are odd. -/
theorem evaluate_forgiving_limitOverTags :
    ∃ a s', limitOverTags.evaluate (fun _ _ => pure (.fresh .null))
        ⟨none, .record [(.text "limit", .text "1e400"),
          (.text "tags", .list [.record [], .null])]⟩ ⟨fun _ => .int 0, 0, .int 0, [], []⟩ =
      .ok a s' := by
  have forgiving : limitOverTags.isForgiving = true := by decide
  obtain ⟨ends, -⟩ := evaluate_forgiving forgiving (fun _ _ => pure (.fresh .null)) none
    [(.text "limit", .text "1e400"), (.text "tags", .list [.record [], .null])]
    Surroundings.ordinary_still
  rcases ends with value |
    ⟨failure, s', -, ⟨-, ⟨own, mem, immodest⟩ | ⟨key, immodest⟩⟩ | ⟨-, named⟩⟩
  · exact value
  · have modest : ∀ own ∈ limitOverTags.constants, (Value.scalar own).isModest = true := by
      decide +kernel
    rw [modest own mem] at immodest
    cases immodest
  · by_cases limit : "limit" = key
    · have modest : (Value.text "1e400").isModest = true := by decide +kernel
      subst limit
      exact absurd (modest.symm.trans immodest) Bool.noConfusion
    · by_cases tags : "tags" = key
      · have modest : (Value.list [.record [], .null]).isModest = true := by decide +kernel
        subst tags
        exact absurd (modest.symm.trans immodest) Bool.noConfusion
      · have missing : Entries.get [(.text "limit", .text "1e400"),
            (.text "tags", .list [.record [], .null])] key = .null := by
          simp only [Entries.get, Entries.get?, if_neg limit, if_neg tags, Option.getD_none]
        rw [missing, Value.isModest_null] at immodest
        cases immodest
  · cases named

/-- An integer beyond all floating-point numbers is true, and asking for its truth fails. -/
theorem evaluate_boolean_enormous :
    (Node.call (.builtin .boolean)
        [.call (.builtin .property) [.constant (.text "visits")]]).isForgiving = true ∧
      Surroundings.Ordinary ⟨fun _ => .int 0, 0, .int 0, [], []⟩ ∧
      (Value.scalar FlagSet.enormous).isTrue = true ∧
      ∃ s', (Node.call (.builtin .boolean)
          [.call (.builtin .property) [.constant (.text "visits")]]).evaluate
          (fun _ _ => pure (.fresh .null))
          ⟨none, .record [(.text "visits", .scalar FlagSet.enormous)]⟩
          ⟨fun _ => .int 0, 0, .int 0, [], []⟩ = .error .intTooLarge s' := by
  have asked : (Node.call (.builtin .boolean)
      [.call (.builtin .property) [.constant (.text "visits")]]).evaluate
      (fun _ _ => pure (.fresh .null))
      ⟨none, .record [(.text "visits", .scalar FlagSet.enormous)]⟩ = (do
        return Operand.fresh (.bool
          (← Check.ofExcept (Value.scalar FlagSet.enormous).truthy))) := rfl
  have fails : (Value.scalar FlagSet.enormous).truthy = .error .intTooLarge :=
    Value.truthy_of_not_fits (by decide +kernel) (by decide +kernel)
  refine ⟨by decide, Surroundings.ordinary_still, by decide +kernel,
    ⟨fun _ => .int 0, 0, .int 0, [], []⟩, ?_⟩
  rw [asked, fails]
  rfl

end Node

end FeatureGates
