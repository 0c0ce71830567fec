import FeatureGates.Proofs.Oversize
import FeatureGates.Proofs.Percentages

/-!
# Rollouts grow with their percentage

A percentage covers the buckets below a thousand times itself. That product
is exact for an integer and rounded for a floating-point number; but the
product of an integer has few enough digits to be its own rounding, so both
are one function of where the percentage stands on the line
(`Number.mul_thousand`). That function keeps the order, so whoever is in a
rollout stays in it when the percentage rises; it covers nothing at nought
and every bucket at a hundred (`Rollout.stays_included`). Under a name with
surrogates no one is in a rollout or out of it: there are no buckets, and
asking fails at every percentage, but for an operator at nought.

A rollout is asked for in two ways, by the gate of a feature and by an
operator in an expression. The operator takes an empty id for none and
leaves it out, the gate puts it into the bucket of the feature's bare name.
So the two agree about an actor just if it has an id or falls into a bucket
that is not covered (`Gate.rollout_agrees_iff`).
-/

namespace FeatureGates

/-! Powers of natural numbers are the ones of core. -/

attribute [local instance (2000)] instPowNat

/-! ## Products by a thousand -/

/-- The whole numbers up to a hundred thousand have a floating-point number of their own. -/
theorem roundToPrecision_of_few {k : Nat} (few : k ≤ 100000) :
    roundToPrecision (k * unitsPerOne) 1 = k * unitsPerOne :=
  roundToPrecision_of_representable ⟨k, unitExponent, Nat.le_trans few (by decide), rfl⟩

theorem hundredThousand_lt_unitLimit : 100000 * unitsPerOne < unitLimit := by
  unfold unitsPerOne unitLimit
  calc 100000 * 2 ^ unitExponent < 2 ^ 17 * 2 ^ unitExponent :=
        Nat.mul_lt_mul_of_pos_right (by decide) (Nat.two_pow_pos unitExponent)
    _ = 2 ^ (17 + unitExponent) := (Nat.pow_add ..).symm
    _ ≤ 2 ^ (1024 + unitExponent) := Nat.pow_le_pow_right (by decide) (by decide)

/-- The thousandfold of a percentage has a floating-point number. -/
theorem thousandfold_lt_unitLimit {units : Nat} (few : units ≤ 100 * unitsPerOne) :
    roundToPrecision (units * 1000) 1 < unitLimit :=
  calc roundToPrecision (units * 1000) 1
      ≤ roundToPrecision (100000 * unitsPerOne) 1 := roundToPrecision_mono 1 (by omega)
    _ = 100000 * unitsPerOne := roundToPrecision_of_few (Nat.le_refl _)
    _ < unitLimit := hundredThousand_lt_unitLimit

/-- The product of two floating-point numbers, of which one is a thousand. -/
theorem Magnitude.round?_thousandfold {units : Nat} (few : units ≤ 100 * unitsPerOne) :
    round? (units * (1000 * unitsPerOne)) unitsPerOne =
      some ⟨roundToPrecision (units * 1000) 1, thousandfold_lt_unitLimit few,
        roundToPrecision_eq _ _⟩ := by
  have scaled := round?_scale (units * 1000) 1 unitsPerOne_pos
  rw [Nat.one_mul, Nat.mul_assoc] at scaled
  rw [scaled]
  exact dif_pos (thousandfold_lt_unitLimit few)

/-! The powers of two are not to be computed where terms are compared. -/

attribute [local irreducible] unitsPerOne unitLimit

/-- A thousand in floating point. -/
theorem Number.toBinary64_thousand :
    ∃ m : Magnitude, toBinary64 (.int 1000) = .ok (.finite false m) ∧
      m.units = 1000 * unitsPerOne := by
  obtain ⟨x, near⟩ := Number.exists_toBinary64 (n := .int 1000) (by decide +kernel)
  obtain ⟨n, same, nearest⟩ | other := toBinary64_eq_ok near
  · cases same
    obtain ⟨m, rounded, rfl⟩ := Binary64.ofRatio?_eq_some nearest
    refine ⟨m, near, ?_⟩
    rw [Magnitude.units_of_round? rounded]
    exact roundToPrecision_of_few (by decide)
  · cases other

/-- Where a thousandfold of a number up to a hundred stands: at the rounding of the exact product,
whichever kind of number it is. -/
theorem Number.mul_thousand {n : Number} {units : Nat} (place : n.position? = some (.at units))
    (few : units ≤ 100 * unitsPerOne) :
    ∃ product, n.mul (.int 1000) = .ok product ∧
      product.position? = some (.at (roundToPrecision (units * 1000) 1 : Nat)) := by
  have unit := unitsPerOne_pos
  cases n with
  | int k =>
    have same : k * (unitsPerOne : Int) = units := Position.at.inj (Option.some.inj place)
    have nonneg : 0 ≤ k := Int.nonneg_of_mul_nonneg_left (by omega) (Int.natCast_pos.2 unit)
    obtain ⟨count, rfl⟩ := Int.eq_ofNat_of_zero_le nonneg
    obtain rfl : count * unitsPerOne = units := by exact_mod_cast same
    have below : count ≤ 100 := Nat.le_of_mul_le_mul_right few unit
    refine ⟨.int (count * 1000), rfl, ?_⟩
    rw [Nat.mul_right_comm, roundToPrecision_of_few (by omega)]
    show some (Position.at ((count * 1000 : Int) * unitsPerOne)) = _
    rw [Int.natCast_mul, Int.natCast_mul]
    rfl
  | float x =>
    obtain ⟨thousand, near, size⟩ := toBinary64_thousand
    refine ⟨.float (x.mul (.finite false thousand)), ?_, ?_⟩
    · show (do return Number.float (x.mul (← toBinary64 (.int 1000)))) = _
      rw [near]
      rfl
    · cases x with
      | nan => cases place
      | infinite s => cases s <;> cases place
      | finite s m =>
        have same : Binary64.signedUnits s m = units := Position.at.inj (Option.some.inj place)
        obtain rfl : m.units = units := by
          rw [← Binary64.natAbs_signedUnits s m, same, Int.natAbs_natCast]
        show (Binary64.ofUnits (s != false) (m.units * thousand.units) unitsPerOne).position? = _
        rw [size, Binary64.ofUnits_of_round? (Magnitude.round?_thousandfold few)]
        cases s with
        | false => rfl
        | true =>
          -- minus zero is the only negative number that is a percentage
          have none : m.units = 0 := by
            simp only [Binary64.signedUnits, if_true] at same
            omega
          have zero : roundToPrecision (m.units * 1000) 1 = 0 :=
            roundToPrecision_eq_zero (by omega)
          show some (Position.at (-(roundToPrecision (m.units * 1000) 1 : Nat))) = _
          rw [zero]
          rfl

/-! ## Covered buckets -/

namespace Number

variable {a b : Number} {x y : Nat}

theorem le_of_places (ha : a.position? = some (.at x)) (hb : b.position? = some (.at y))
    (h : a.le b = true) : x ≤ y := by
  unfold le at h
  rw [ha, hb] at h
  have h : (!decide ((y : Int) < x)) = true := h
  rw [Bool.not_eq_true', decide_eq_false_iff_not] at h
  omega

/-- Where a number stands that equals a count. -/
theorem eq_of_place {k : Nat} (ha : a.position? = some (.at x)) (h : a.eq (.int k) = true) :
    x = k * unitsPerOne := by
  obtain ⟨p, place, count⟩ := positions_of_eq h
  have count : Position.at (k * unitsPerOne) = p := Option.some.inj count
  rw [ha, ← count] at place
  have same : (x : Int) = k * unitsPerOne := Position.at.inj (Option.some.inj place)
  exact_mod_cast same

theorem eq_zero_of_place (ha : a.position? = some (.at x)) (h : a.eq (.int 0) = true) :
    x = 0 := by
  rw [eq_of_place (k := 0) ha h, Nat.zero_mul]

end Number

theorem Percentage.exists_place (p : Percentage) :
    ∃ units : Nat, p.value.position? = some (.at units) ∧ units ≤ 100 * unitsPerOne := by
  obtain ⟨low, high⟩ := Bool.and_eq_true_iff.1 p.inRange
  unfold Number.le at low high
  cases place : p.value.position? with
  | none => rw [place] at high; cases high
  | some q =>
    rw [place] at low high
    cases q with
    | bottom => cases low
    | top => cases high
    | «at» units =>
      have low : (!decide (units < 0 * (unitsPerOne : Int))) = true := low
      have high : (!decide (100 * (unitsPerOne : Int) < units)) = true := high
      rw [Bool.not_eq_true', decide_eq_false_iff_not] at low high
      exact ⟨units.toNat, by rw [Int.toNat_of_nonneg (by omega)], by omega⟩

namespace Rollout

/-- The units below which the buckets lie that so many units of a percentage cover. -/
def coverage (units : Nat) : Nat := roundToPrecision (units * bucketsPerPercent) 1

theorem coverage_mono {a b : Nat} (h : a ≤ b) : coverage a ≤ coverage b :=
  roundToPrecision_mono 1 (Nat.mul_le_mul_right _ h)

theorem coverage_zero : coverage 0 = 0 := roundToPrecision_eq_zero (by decide)

theorem coverage_hundred : coverage (100 * unitsPerOne) = bucketCount * unitsPerOne := by
  unfold coverage
  rw [Nat.mul_right_comm]
  exact roundToPrecision_of_few (Nat.le_refl _)

/-- The bucket is among those that so many units of a percentage cover. -/
def covers (units : Nat) (feature : CodePoints) (actor : String) : Bool :=
  textBucket feature.text actor * unitsPerOne < coverage units

variable (feature : CodePoints) (actor : String)

theorem covers_mono {a b : Nat} (h : a ≤ b)
    (covered : covers a feature actor = true) : covers b feature actor = true :=
  decide_eq_true (Nat.lt_of_lt_of_le (of_decide_eq_true covered) (coverage_mono h))

theorem covers_nothing : covers 0 feature actor = false := by
  unfold covers
  rw [coverage_zero]
  exact decide_eq_false (Nat.not_lt_zero _)

theorem covers_everything : covers (100 * unitsPerOne) feature actor = true := by
  unfold covers
  rw [coverage_hundred]
  exact decide_eq_true
    (Nat.mul_lt_mul_of_pos_right (textBucket_lt feature.text actor) unitsPerOne_pos)

variable {feature}

theorem includes_eq {n : Number} {units : Nat} (place : n.position? = some (.at units))
    (few : units ≤ 100 * unitsPerOne) (named : feature.isText = true) :
    includes feature actor n = .ok (covers units feature actor) := by
  obtain ⟨product, made, stands⟩ := Number.mul_thousand place few
  have made : n.mul (.int bucketsPerPercent) = .ok product := made
  unfold includes covers
  rw [bucket_of_isText named, made]
  generalize textBucket feature.text actor = own
  show Except.ok (Number.lt (.int own) product) = _
  have below : (Number.int own).position? = some (.at ((own * unitsPerOne : Nat) : Int)) := by
    rw [Int.natCast_mul]
    rfl
  unfold Number.lt
  rw [below, stands]
  exact congrArg Except.ok (decide_eq_decide.2 Int.ofNat_lt)

/-- The operator of rollouts over an id and a percentage. -/
def node (id : String) (p : Percentage) : Node :=
  .call (.builtin .percentageOfActors) [.constant (.text id), .constant (.number p.value)]

/-- That is the node that is made of the two. -/
theorem make_node (id : String) (p : Percentage) :
    Node.make (.operator (.builtin .percentageOfActors)) [.text id, .number p.value] =
      .ok (node id p) := rfl

/-- The operator leaves out an empty id, and everyone at nought. -/
theorem evaluate_node_eq (meaning : Meaning) (context : EvaluationContext) (id : String)
    (p : Percentage) : (node id p).evaluate meaning context =
      if id.isEmpty || p.value.isZero then pure (Meaning.answer false)
      else Check.ofExcept (includes (context.feature.getD "") id p.value) >>= fun included =>
        pure (Meaning.answer included) := by
  have asked : (node id p).evaluate meaning context =
      (do
        if id.isEmpty || p.value.isZero then return Meaning.answer false
        else if ← Check.ofExcept p.value.checkNaN then return Meaning.answer false
        else
          return Meaning.answer
            (← Check.ofExcept (includes (context.feature.getD "") id p.value))) := rfl
  rw [asked, Number.checkNaN_of_isPercentage p.inRange]
  rfl

/-- Otherwise it answers whether the bucket is covered. -/
theorem evaluate_node (meaning : Meaning) (context : EvaluationContext)
    (named : (context.feature.getD "").isText = true) (id : String) {p : Percentage} {units : Nat}
    (place : p.value.position? = some (.at units)) (few : units ≤ 100 * unitsPerOne)
    (s : Surroundings) :
    (node id p).evaluate meaning context s =
      .ok (Meaning.answer (!id.isEmpty && covers units (context.feature.getD "") id)) s := by
  have nothing (isZero : p.value.isZero = true) :
      covers units (context.feature.getD "") id = false := by
    rw [Number.eq_zero_of_place place isZero]
    exact covers_nothing _ _
  rw [evaluate_node_eq, includes_eq id place few named]
  cases id.isEmpty with
  | true =>
    rw [Bool.not_true, Bool.false_and]
    rfl
  | false =>
    rw [Bool.not_false, Bool.true_and]
    cases isZero : p.value.isZero with
    | false => rfl
    | true =>
      rw [nothing isZero]
      rfl

/-! ## Rising percentages -/

/-- Under a name with surrogates the operator fails too, but at nought. -/
theorem evaluate_node_of_surrogates (meaning : Meaning) (context : EvaluationContext)
    (named : (context.feature.getD "").isText = false) {id : String} (someone : id.isEmpty = false)
    (p : Percentage) (s : Surroundings) :
    (node id p).evaluate meaning context s =
      if p.value.isZero then .ok (Meaning.answer false) s
      else .error (context.feature.getD "" ++ CodePoints.ofText id).unencodable s := by
  rw [evaluate_node_eq, includes_of_not_isText named, someone, Bool.false_or]
  cases p.value.isZero <;> rfl

/-- Whoever is in a rollout stays in it when the percentage rises, whether it is asked for
directly or in an expression. At nought no one is in it, and at a hundred everyone is. Under a
name with surrogates asking fails, but for an expression at nought. -/
theorem stays_included (meaning : Meaning) (context : EvaluationContext) (s : Surroundings)
    {id : String} (someone : id ≠ "") {p q : Percentage} (rises : p.value.le q.value = true) :
    ((context.feature.getD "").isText = true → ∃ before after : Bool,
      includes (context.feature.getD "") id p.value = .ok before ∧
      includes (context.feature.getD "") id q.value = .ok after ∧
      (node id p).evaluate meaning context s = .ok (Meaning.answer before) s ∧
      (node id q).evaluate meaning context s = .ok (Meaning.answer after) s ∧
      (before = true → after = true) ∧
      (p.value.eq (.int 0) = true → before = false) ∧
      (q.value.eq (.int 100) = true → after = true)) ∧
      ((context.feature.getD "").isText = false → ∀ r : Percentage,
        includes (context.feature.getD "") id r.value =
          .error (context.feature.getD "" ++ CodePoints.ofText id).unencodable ∧
        (node id r).evaluate meaning context s =
          if r.value.isZero then .ok (Meaning.answer false) s
          else .error (context.feature.getD "" ++ CodePoints.ofText id).unencodable s) := by
  have some_id : id.isEmpty = false := by simpa using someone
  refine ⟨fun named => ?_, fun named r => ⟨includes_of_not_isText named _ _,
    evaluate_node_of_surrogates meaning context named some_id r s⟩⟩
  obtain ⟨below, place, few⟩ := p.exists_place
  obtain ⟨above, place', few'⟩ := q.exists_place
  have asked := evaluate_node meaning context named id place few s
  have asked' := evaluate_node meaning context named id place' few' s
  rw [some_id, Bool.not_false, Bool.true_and] at asked asked'
  refine ⟨_, _, includes_eq id place few named, includes_eq id place' few' named, asked, asked',
    ?_, ?_, ?_⟩
  · exact covers_mono _ id (Number.le_of_places place place' rises)
  · intro nought
    rw [Number.eq_zero_of_place place nought]
    exact covers_nothing _ _
  · intro hundred
    rw [Number.eq_of_place (k := 100) place' hundred]
    exact covers_everything _ _

/-- Everyone should be in a rollout to everyone, and of a name that is one surrogate nobody is
told so. -/
theorem stays_included_surrogate :
    includes ⟨[.surrogate 0]⟩ "user-1" (.int 100) = .error (.notEncodable 0 [0xD800]) ∧
      (node "user-1" ⟨.int 100, by decide +kernel⟩).evaluate (fun _ _ => pure (.fresh .null))
          ⟨some ⟨[.surrogate 0]⟩, .emptyRecord⟩ ⟨fun _ => .int 0, 0, .int 0, [], []⟩ =
        .error (.notEncodable 0 [0xD800]) ⟨fun _ => .int 0, 0, .int 0, [], []⟩ := by
  have named : CodePoints.isText ⟨[.surrogate 0]⟩ = false := rfl
  have nonzero : (Number.int 100).isZero = false := by decide +kernel
  refine ⟨includes_of_not_isText named _ _, ?_⟩
  have someone : "user-1".isEmpty = false := by decide
  have asked := evaluate_node_of_surrogates (fun _ _ => pure (.fresh .null))
    ⟨some ⟨[.surrogate 0]⟩, .emptyRecord⟩ named someone ⟨.int 100, by decide +kernel⟩
    ⟨fun _ => .int 0, 0, .int 0, [], []⟩
  exact asked.trans (if_neg (Bool.eq_false_iff.1 nonzero))

/-- From twelve percent, an integer, to twelve and a half. -/
theorem stays_included_twelve :
    ∃ before after : Bool,
      includes "search" "user-1" (.int 12) = .ok before ∧
      includes "search" "user-1" (.float (.ofDecimal false 125 (-1))) = .ok after ∧
      (node "user-1" ⟨.int 12, by decide +kernel⟩).evaluate (fun _ _ => pure (.fresh .null))
          ⟨some "search", .emptyRecord⟩ ⟨fun _ => .int 0, 0, .int 0, [], []⟩ =
        .ok (Meaning.answer before) ⟨fun _ => .int 0, 0, .int 0, [], []⟩ ∧
      (node "user-1" ⟨.float (.ofDecimal false 125 (-1)), by decide +kernel⟩).evaluate
          (fun _ _ => pure (.fresh .null)) ⟨some "search", .emptyRecord⟩
          ⟨fun _ => .int 0, 0, .int 0, [], []⟩ =
        .ok (Meaning.answer after) ⟨fun _ => .int 0, 0, .int 0, [], []⟩ ∧
      (before = true → after = true) ∧
      ((Number.int 12).eq (.int 0) = true → before = false) ∧
      ((Number.float (.ofDecimal false 125 (-1))).eq (.int 100) = true → after = true) :=
  let twelve : Percentage := ⟨.int 12, by decide +kernel⟩
  let half : Percentage := ⟨.float (.ofDecimal false 125 (-1)), by decide +kernel⟩
  have named : (CodePoints.ofText "search").isText = true := CodePoints.isText_ofText "search"
  have someone : "user-1" ≠ "" := by decide
  have rises : twelve.value.le half.value = true := by decide +kernel
  (stays_included (fun _ _ => pure (.fresh .null)) ⟨some "search", .emptyRecord⟩
    ⟨fun _ => .int 0, 0, .int 0, [], []⟩ someone rises).1 named

end Rollout

/-! ## The gate and the operator -/

namespace Gate

/-- The gate of a rollout and the operator, over the same id and percentage, always answer. They
agree just if there is an id, or if the bucket of the feature's bare name is not covered. -/
theorem rollout_agrees_iff (environment : Environment) (meaning : Meaning) (feature : String)
    (values : GateValues) (subject : Subject) (p : Percentage) (properties : Value)
    (s : Surroundings) :
    ∃ (node : Node) (gateOpen included : Bool),
      isOpen .percentageOfActors environment
          ⟨feature, { values with percentageOfActors := p.value }, some subject⟩ s =
        .ok gateOpen s ∧
      Node.make (.operator (.builtin .percentageOfActors)) [.text subject.id, .number p.value] =
        .ok node ∧
      node.evaluate meaning ⟨some feature, properties⟩ s = .ok (Meaning.answer included) s ∧
      (gateOpen = included ↔
        subject.id ≠ "" ∨ Rollout.includes feature "" p.value = .ok false) := by
  obtain ⟨units, place, few⟩ := p.exists_place
  have named := CodePoints.isText_ofText feature
  have decided (actor : String) := Rollout.includes_eq actor place few named
  refine ⟨Rollout.node subject.id p, Rollout.covers units feature subject.id,
    !subject.id.isEmpty && Rollout.covers units feature subject.id, ?_, Rollout.make_node _ _,
    Rollout.evaluate_node meaning ⟨some feature, properties⟩ named subject.id place few s, ?_⟩
  · show Check.ofExcept (Rollout.includes feature subject.id p.value) s = _
    rw [decided]
    rfl
  · rw [decided]
    by_cases named : subject.id = ""
    · rw [named]
      show _ = (!true && Rollout.covers units feature "") ↔ _
      rw [Bool.not_true, Bool.false_and]
      generalize Rollout.covers units feature "" = covered
      cases covered <;> simp
    · have some_id : subject.id.isEmpty = false := by simpa using named
      rw [some_id, Bool.not_false, Bool.true_and]
      exact iff_of_true rfl (.inl named)

/-- Of an actor with an empty id a rollout to everyone leaves the gate open, and the operator
leaves it out. -/
theorem rollout_disagrees_nameless :
    ∃ (subject : Subject) (node : Node),
      Subject.ofThing (.actor (.text "") .emptyRecord) = .ok subject ∧
      Node.make (.operator (.builtin .percentageOfActors)) [.text "", .int 100] = .ok node ∧
      isOpen .percentageOfActors ⟨.standard, fun _ _ => pure (.fresh .null), .empty⟩
          ⟨"search", { GateValues.closed with percentageOfActors := .int 100 }, some subject⟩
          ⟨fun _ => .int 0, 0, .int 0, [], []⟩ =
        .ok true ⟨fun _ => .int 0, 0, .int 0, [], []⟩ ∧
      node.evaluate (fun _ _ => pure (.fresh .null)) ⟨some "search", .emptyRecord⟩
          ⟨fun _ => .int 0, 0, .int 0, [], []⟩ =
        .ok (Meaning.answer false) ⟨fun _ => .int 0, 0, .int 0, [], []⟩ := by
  have everyone : Rollout.includes "search" "" (.int 100) = .ok true := by
    obtain ⟨units, place, few⟩ := (⟨.int 100, by decide +kernel⟩ : Percentage).exists_place
    have hundred := Number.eq_of_place (k := 100) place (by decide +kernel)
    rw [Rollout.includes_eq "" place few (CodePoints.isText_ofText "search"), hundred,
      Rollout.covers_everything]
  refine ⟨⟨.actor (.text "") .emptyRecord, ""⟩, _, rfl, rfl, ?_, rfl⟩
  show Check.ofExcept (Rollout.includes "search" "" (.int 100)) _ = _
  rw [everyone]
  rfl

end Gate

end FeatureGates
