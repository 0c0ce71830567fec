import FeatureGates.Proofs.Oversize

/-!
# The text that clients have in common

Clients that share a store hash the texts of numbers and look properties up
by them, so they have to write numbers alike. The notation they have in
common is plain from `1e-6` up to but not including `1e21`, without a point
in whole numbers, and has an exponent without leading zeros elsewhere
(`Binary64.commonText`). The digits are the shortest that read back.

`Number.toText` keeps to it but for two kinds of numbers
(`Number.toText_eq_commonText_iff`). Whole numbers below `1e21` are written
as integers, with all their digits and not the shortest ones. Other numbers
are written as they are stored, with an exponent already below `1e-4` that
is filled up to two digits; from there it takes sizes below `1e-9` to have
two digits anyway.

Where notations change is told of the place of the first digit. It is
compared with a power of ten through the nearest sizes
(`Magnitude.point_le_iff`): rounding keeps the order of decimals, and the
powers in question are written with one digit.
-/

namespace FeatureGates

/-! Powers of natural numbers are the ones of core. -/

attribute [local instance (2000)] instPowNat

open Text

/-! ## The place of the first digit -/

namespace Decimal

theorem length_toDigits_eq (d : Decimal) :
    ((Nat.toDigits 10 d.coefficient).length : Int) = d.point - d.exponent := by
  unfold point
  omega

/-- A decimal is below the power of ten at its point. -/
theorem coefficient_lt (d : Decimal) {k : Nat} (h : 0 ≤ d.exponent + k) :
    d.coefficient * 10 ^ (d.exponent + k).toNat < 10 ^ (d.point + k).toNat := by
  have length := d.length_toDigits_eq
  have below : d.coefficient < 10 ^ (Nat.toDigits 10 d.coefficient).length :=
    (Nat.length_toDigits_le_iff (by decide) Nat.length_toDigits_pos).1 (Nat.le_refl _)
  have places : (d.point + k).toNat =
      (Nat.toDigits 10 d.coefficient).length + (d.exponent + k).toNat := by omega
  rw [places, Nat.pow_add]
  exact Nat.mul_lt_mul_of_pos_right below (Binary64.ten_pow_pos _)

/-- A decimal that is not zero reaches the power of ten before its point. -/
theorem le_coefficient {d : Decimal} (nonzero : d.coefficient ≠ 0) {k : Nat}
    (h : 0 ≤ d.exponent + k) :
    10 ^ (d.point - 1 + k).toNat ≤ d.coefficient * 10 ^ (d.exponent + k).toNat := by
  have length := d.length_toDigits_eq
  have some_digit : 0 < (Nat.toDigits 10 d.coefficient).length := Nat.length_toDigits_pos
  have reached : 10 ^ ((Nat.toDigits 10 d.coefficient).length - 1) ≤ d.coefficient := by
    refine Nat.le_of_not_lt fun below => ?_
    by_cases one : (Nat.toDigits 10 d.coefficient).length = 1
    · rw [one] at below
      omega
    · have short := (Nat.length_toDigits_le_iff (by decide) (by omega)).2 below
      omega
  have places : (d.point - 1 + k).toNat =
      (Nat.toDigits 10 d.coefficient).length - 1 + (d.exponent + k).toNat := by omega
  rw [places, Nat.pow_add]
  exact Nat.mul_le_mul_right _ reached

end Decimal

namespace Magnitude

/-- The first digit of a size stands below a power of ten exactly if the size is
less than the one nearest to that power. -/
theorem point_le_iff {m n : Magnitude} {p : Int} (nonzero : m.units ≠ 0)
    (hn : Binary64.ofDecimal false 1 p = .finite false n) (first : n.shortest.point = p + 1) :
    m.shortest.point ≤ p ↔ m.units < n.units := by
  have read := m.ofDecimal_shortest false
  -- both decimals are quotients over this power of ten
  obtain ⟨k, he, hp⟩ : ∃ k : Nat, 0 ≤ m.shortest.exponent + k ∧ 0 ≤ p + k :=
    ⟨m.shortest.exponent.natAbs + p.natAbs, by omega, by omega⟩
  constructor
  · intro low
    have below := m.shortest.coefficient_lt he
    have power : 10 ^ (m.shortest.point + k).toNat ≤ 10 ^ (p + k).toNat :=
      Binary64.ten_pow_le (by omega)
    have le : m.units ≤ n.units := by
      refine Binary64.units_mono_of_ofDecimal read hn he hp ?_
      rw [Nat.one_mul]
      exact Nat.le_of_lt (Nat.lt_of_lt_of_le below power)
    refine Nat.lt_of_le_of_ne le fun same => ?_
    rw [eq_of_units same] at low
    omega
  · intro less
    refine Int.not_lt.1 fun high => Nat.not_le_of_lt less ?_
    have reached := Decimal.le_coefficient (shortest_coefficient_ne_zero nonzero) he
    have power : 10 ^ (p + k).toNat ≤ 10 ^ (m.shortest.point - 1 + k).toNat :=
      Binary64.ten_pow_le (by omega)
    refine Binary64.units_mono_of_ofDecimal hn read hp he ?_
    rw [Nat.one_mul]
    exact Nat.le_trans power reached

end Magnitude

/-! ## Powers of ten -/

/-- The number nearest to a power of ten. -/
def Number.powerOfTen (exponent : Int) : Number := .float (.ofDecimal false 1 exponent)

namespace Magnitude

/-- The powers of ten at which notations change are written with one digit,
and those that are not fractions are exact. -/
theorem exists_powerOfTen {p : Int} (hp : p ∈ [-9, -6, -4, 0, 16, 21]) :
    ∃ n : Magnitude, Binary64.ofDecimal false 1 p = .finite false n ∧
      n.shortest.point = p + 1 ∧ (0 ≤ p → n.units = 10 ^ p.toNat * unitsPerOne) := by
  have all : ∀ p ∈ ([-9, -6, -4, 0, 16, 21] : List Int),
      (round? (1 * 10 ^ p.toNat * unitsPerOne) (10 ^ (-p).toNat)).any (fun n =>
        decide (n.shortest.point = p + 1 ∧ (0 ≤ p → n.units = 10 ^ p.toNat * unitsPerOne))) =
          true := by decide +kernel
  obtain ⟨n, rounded, own⟩ := (Option.any_eq_true _ _).1 (all p hp)
  refine ⟨n, ?_, of_decide_eq_true own⟩
  rw [Binary64.ofDecimal_eq]
  exact Binary64.ofUnits_of_round? rounded

end Magnitude

/-! The unit is not to be computed where terms are compared. -/

attribute [local irreducible] unitsPerOne

namespace Magnitude

variable {m : Magnitude} (nonzero : m.units ≠ 0)

include nonzero

theorem point_le_iff_lt {p : Int} (hp : p ∈ [-9, -6, -4, 0, 16, 21]) :
    m.shortest.point ≤ p ↔
      (Number.float (.finite false m)).lt (Number.powerOfTen p) = true := by
  obtain ⟨n, hn, first, -⟩ := exists_powerOfTen hp
  unfold Number.powerOfTen
  rw [hn, point_le_iff nonzero hn first]
  show _ ↔ decide ((m.units : Int) < n.units) = true
  rw [decide_eq_true_eq, Int.ofNat_lt]

theorem lt_point_iff_le {p : Int} (hp : p ∈ [-9, -6, -4, 0, 16, 21]) :
    p < m.shortest.point ↔
      (Number.powerOfTen p).le (.float (.finite false m)) = true := by
  obtain ⟨n, hn, first, -⟩ := exists_powerOfTen hp
  unfold Number.powerOfTen
  rw [hn, ← Int.not_le, point_le_iff nonzero hn first]
  show _ ↔ (!decide ((m.units : Int) < n.units)) = true
  rw [Bool.not_eq_true', decide_eq_false_iff_not, Int.ofNat_lt]

/-- A whole number has a digit before its point. -/
theorem point_pos_of_whole (whole : m.units % unitsPerOne = 0) : 0 < m.shortest.point := by
  obtain ⟨n, one, first, units⟩ := exists_powerOfTen (p := 0) (by decide)
  refine Int.not_le.1 fun low => ?_
  have below : m.units < n.units := (point_le_iff nonzero one first).1 low
  have units : n.units = 10 ^ 0 * unitsPerOne := units (by decide)
  rw [units, Nat.pow_zero, Nat.one_mul] at below
  rw [Nat.mod_eq_of_lt below] at whole
  exact nonzero whole

/-- A size that is not whole has at most 16 digits before its point. -/
theorem point_le_of_not_whole (fraction : m.units % unitsPerOne ≠ 0) :
    m.shortest.point ≤ 16 := by
  obtain ⟨n, large, first, units⟩ := exists_powerOfTen (p := 16) (by decide)
  have units : n.units = 10 ^ 16 * unitsPerOne := units (by decide)
  refine (point_le_iff nonzero large first).2 ?_
  rw [units]
  exact Nat.lt_of_le_of_lt (units_le_of_not_whole fraction)
    (Nat.mul_lt_mul_of_pos_right (by decide) unitsPerOne_pos)

theorem point_le_wholeDigits_iff :
    m.shortest.point ≤ 21 ↔ m.units < 10 ^ Number.wholeDigits * unitsPerOne := by
  obtain ⟨n, large, first, units⟩ := exists_powerOfTen (p := 21) (by decide)
  have units : n.units = 10 ^ Number.wholeDigits * unitsPerOne := units (by decide)
  rw [point_le_iff nonzero large first, units]

end Magnitude

/-! ## Whole numbers -/

/-- A whole number is rounded to a whole number. -/
theorem unitsPerOne_dvd_roundToPrecision (n : Nat) :
    unitsPerOne ∣ roundToPrecision (n * unitsPerOne) 1 := by
  unfold roundToPrecision
  simp only [Nat.div_one, Nat.one_mul]
  unfold unitsPerOne
  by_cases few : excessBits (n * 2 ^ unitExponent) ≤ unitExponent
  · -- nothing is given up, since the power of two that could be is a factor
    have split : n * 2 ^ unitExponent =
        n * 2 ^ (unitExponent - excessBits (n * 2 ^ unitExponent))
          * 2 ^ excessBits (n * 2 ^ unitExponent) := by
      rw [Nat.mul_assoc, ← Nat.pow_add, Nat.sub_add_cancel few]
    have kept : roundHalfEven (n * 2 ^ unitExponent) (2 ^ excessBits (n * 2 ^ unitExponent)) =
        n * 2 ^ (unitExponent - excessBits (n * 2 ^ unitExponent)) := by
      have rounded := roundHalfEven_mul_self
        (n * 2 ^ (unitExponent - excessBits (n * 2 ^ unitExponent)))
        (Nat.two_pow_pos (excessBits (n * 2 ^ unitExponent)))
      rwa [← split] at rounded
    rw [kept, ← split]
    exact Nat.dvd_mul_left _ n
  · exact Nat.dvd_mul_left_of_dvd (Nat.pow_dvd_pow 2 (by omega)) _

/-- A size whose shortest decimal has no digits behind the point is whole. -/
theorem Magnitude.whole_of_length_le {m : Magnitude}
    (h : (m.shortest.digits.length : Int) ≤ m.shortest.point) : m.units % unitsPerOne = 0 := by
  have units := m.units_eq_roundToPrecision rfl
  have down : (-(m.shortest.point - m.shortest.digits.length)).toNat = 0 := by omega
  rw [down, Nat.pow_zero] at units
  rw [units]
  exact Nat.mod_eq_zero_of_dvd (unitsPerOne_dvd_roundToPrecision _)

/-- The decimal is the size itself, not only one that is read as it. -/
def Decimal.Denotes (d : Decimal) (m : Magnitude) : Prop :=
  d.coefficient * 10 ^ d.exponent.toNat * unitsPerOne = m.units * 10 ^ (-d.exponent).toNat

theorem Magnitude.denotes_of_zero {m : Magnitude} (h : m.units = 0) : m.shortest.Denotes m := by
  rw [shortest_of_zero h, Decimal.Denotes, h]
  simp only [Nat.zero_mul]

/-- A decimal is a whole number exactly if its digits, filled up with zeros, are
the digits of that number. -/
theorem Decimal.denotes_iff {d : Decimal} (nonzero : d.coefficient ≠ 0) {m : Magnitude} {n : Nat}
    (whole : m.units = n * unitsPerOne) :
    d.Denotes m ↔ d.digits.length ≤ d.point ∧
      Nat.toDigits 10 n = d.digits ++ zeros (d.point - d.digits.length).toNat := by
  obtain ⟨k, coefficient, place⟩ := d.coefficient_eq
  have scaled : d.Denotes m ↔
      d.significand * 10 ^ (k + d.exponent.toNat) = n * 10 ^ (-d.exponent).toNat := by
    unfold Denotes
    rw [whole, coefficient, Nat.mul_right_comm n, Nat.mul_assoc d.significand, ← Nat.pow_add]
    exact Nat.mul_left_inj (Nat.ne_of_gt unitsPerOne_pos)
  rw [scaled]
  constructor
  · intro same
    have long : (d.digits.length : Int) ≤ d.point := by
      -- a decimal with digits behind its point would end in a zero
      refine Int.not_lt.1 fun short => significand_mod_ten nonzero ?_
      have down : (-d.exponent).toNat = (d.digits.length - d.point - 1).toNat + 1
          + (k + d.exponent.toNat) := by omega
      rw [down, Nat.pow_add _ _ (k + _), ← Nat.mul_assoc] at same
      rw [Nat.eq_of_mul_eq_mul_right (Binary64.ten_pow_pos _) same, Nat.pow_succ, ← Nat.mul_assoc]
      exact Nat.mul_mod_left _ 10
    refine ⟨long, ?_⟩
    have up : k + d.exponent.toNat =
        (d.point - d.digits.length).toNat + (-d.exponent).toNat := by omega
    rw [up, Nat.pow_add, ← Nat.mul_assoc] at same
    rw [← Nat.eq_of_mul_eq_mul_right (Binary64.ten_pow_pos _) same,
      toDigits_mul_ten_pow (significand_pos nonzero), ← digits_eq nonzero]
  · rintro ⟨long, written⟩
    have value : n = d.significand * 10 ^ (d.point - d.digits.length).toNat := by
      rw [← @Nat.ofDigitChars_ten_toDigits n, written, ofDigitChars_append_zeros, significand]
    rw [value, Nat.mul_assoc, ← Nat.pow_add]
    congr 2
    omega

/-! ## The common text -/

namespace Decimal

/-- Digits in plain notation; a whole number has no point. -/
def plain (digits : List Char) (point : Int) : List Char :=
  if point ≤ 0 then '0' :: '.' :: zeros (-point).toNat ++ digits
  else if digits.length ≤ point.toNat then digits ++ zeros (point.toNat - digits.length)
  else digits.take point.toNat ++ '.' :: digits.drop point.toNat

/-- Digits with an exponent, which has a sign and no zeros in front. -/
def exponential (digits : List Char) (point : Int) : List Char :=
  digits.take 1 ++ (if digits.length ≤ 1 then [] else '.' :: digits.drop 1)
    ++ 'e' :: (if point < 1 then '-' else '+') :: Nat.toDigits 10 (point - 1).natAbs

end Decimal

/-- The size is neither below `1e-6` nor from `1e21` on. -/
def Number.isPlain (size : Number) : Bool :=
  (powerOfTen (-6)).le size && size.lt (powerOfTen 21)

/-- The shortest digits of a size in the common notation. -/
def Magnitude.commonDigits (m : Magnitude) : List Char :=
  if (Number.float (.finite false m)).isPlain then
    Decimal.plain m.shortest.digits m.shortest.point
  else Decimal.exponential m.shortest.digits m.shortest.point

/-- The text that clients have in common for a finite number; that of both zeros is `0`. -/
def Binary64.commonText (negative : Bool) (m : Magnitude) : String :=
  if m.units = 0 then "0" else String.ofList (signMark negative ++ m.commonDigits)

/-! ## Notations compared -/

namespace Decimal

variable {digits : List Char} {point : Int}

theorem positional_eq_plain (h : point ≤ 0 ∨ point < digits.length) :
    positional digits point = plain digits point := by
  unfold positional plain
  split
  · rfl
  · rw [if_neg (by omega), if_neg (by omega)]

theorem scientific_eq_exponential_iff :
    scientific 2 digits point = exponential digits point ↔ 10 ≤ (point - 1).natAbs := by
  have short : (Nat.toDigits 10 (point - 1).natAbs).length ≤ 1 ↔ (point - 1).natAbs < 10 := by
    rw [Nat.length_toDigits_le_iff (by decide) (by decide), Nat.pow_one]
  unfold scientific exponential
  dsimp only
  constructor
  · intro same
    have lengths := congrArg List.length same
    simp only [List.length_append, List.length_cons, length_zeros] at lengths
    omega
  · intro long
    have none : 2 - (Nat.toDigits 10 (point - 1).natAbs).length = 0 := by omega
    rw [none, List.append_assoc]
    rfl

variable (hd : AreDigits digits)

include hd

theorem e_not_mem_plain : 'e' ∉ plain digits point := by
  have letter {cs : List Char} (h : AreDigits cs) : 'e' ∉ cs := fun mem =>
    absurd (h _ mem) (by decide)
  have own := letter hd
  have zero (n : Nat) : 'e' ∉ zeros n := letter (areDigits_zeros n)
  unfold plain
  split
  · simp [own, zero]
  · split
    · simp [own, zero]
    · have front : 'e' ∉ digits.take point.toNat := fun mem => own (List.mem_of_mem_take mem)
      have back : 'e' ∉ digits.drop point.toNat := fun mem => own (List.mem_of_mem_drop mem)
      simp [front, back]

theorem scientific_ne_plain (width : Nat) (other : Int) :
    scientific width digits point ≠ plain digits other := by
  intro same
  have letter : 'e' ∈ scientific width digits point := by simp [scientific]
  rw [same] at letter
  exact e_not_mem_plain hd letter

end Decimal

namespace Magnitude

variable {m : Magnitude}

theorem text_of_positional (h : -3 ≤ m.shortest.point ∧ m.shortest.point ≤ 16) :
    m.text = Decimal.positional m.shortest.digits m.shortest.point := if_pos h

theorem text_of_scientific (h : ¬(-3 ≤ m.shortest.point ∧ m.shortest.point ≤ 16)) :
    m.text = Decimal.scientific 2 m.shortest.digits m.shortest.point := if_neg h

variable (nonzero : m.units ≠ 0)

include nonzero

theorem isPlain_iff : (Number.float (.finite false m)).isPlain = true ↔
    -6 < m.shortest.point ∧ m.shortest.point ≤ 21 := by
  unfold Number.isPlain
  rw [Bool.and_eq_true, lt_point_iff_le nonzero (by decide), point_le_iff_lt nonzero (by decide)]

theorem commonDigits_of_plain (h : -6 < m.shortest.point ∧ m.shortest.point ≤ 21) :
    m.commonDigits = Decimal.plain m.shortest.digits m.shortest.point :=
  if_pos ((isPlain_iff nonzero).2 h)

theorem commonDigits_of_not_plain (h : ¬(-6 < m.shortest.point ∧ m.shortest.point ≤ 21)) :
    m.commonDigits = Decimal.exponential m.shortest.digits m.shortest.point :=
  if_neg fun plain => h ((isPlain_iff nonzero).1 plain)

/-- The digits of a whole number are the common ones if its shortest decimal is the number
itself. -/
theorem toDigits_eq_commonDigits_iff {n : Nat} (whole : m.units = n * unitsPerOne)
    (few : m.shortest.point ≤ 21) :
    Nat.toDigits 10 n = m.commonDigits ↔ m.shortest.Denotes m := by
  have some_digit : 0 < m.shortest.point := by
    refine point_pos_of_whole nonzero ?_
    rw [whole]
    exact Nat.mul_mod_left n unitsPerOne
  rw [commonDigits_of_plain nonzero (by omega),
    Decimal.denotes_iff (shortest_coefficient_ne_zero nonzero) whole]
  unfold Decimal.plain
  rw [if_neg (Int.not_le.2 some_digit)]
  by_cases long : m.shortest.digits.length ≤ m.shortest.point.toNat
  · have zeros : (m.shortest.point - m.shortest.digits.length).toNat =
        m.shortest.point.toNat - m.shortest.digits.length := by omega
    rw [if_pos long, zeros]
    exact (and_iff_right (by omega)).symm
  · rw [if_neg long]
    refine iff_of_false (fun same => ?_) (fun exact => long (by omega))
    have point : '.' ∈ Nat.toDigits 10 n := by
      rw [same]
      exact List.mem_append_right _ List.mem_cons_self
    exact absurd (areDigits_toDigits n _ point) (by decide)

/-- The stored text of a number that is not whole, or very large, is the common one but for
sizes between `1e-9` and `1e-4`. -/
theorem text_eq_commonDigits_iff
    (uncounted : m.units % unitsPerOne ≠ 0 ∨ 21 < m.shortest.point) :
    m.text = m.commonDigits ↔ ¬(-9 < m.shortest.point ∧ m.shortest.point ≤ -4) := by
  by_cases positional : -3 ≤ m.shortest.point ∧ m.shortest.point ≤ 16
  · have split : m.shortest.point ≤ 0 ∨ m.shortest.point < m.shortest.digits.length := by
      refine Decidable.or_iff_not_imp_left.2 fun high => Int.not_le.1 fun long => ?_
      rcases uncounted with fraction | far
      · exact fraction (whole_of_length_le long)
      · omega
    rw [text_of_positional positional, commonDigits_of_plain nonzero (by omega),
      Decimal.positional_eq_plain split]
    exact iff_of_true rfl (by omega)
  · have far : m.shortest.point < -3 ∨ 21 < m.shortest.point := by
      rcases uncounted with fraction | far
      · have few := point_le_of_not_whole nonzero fraction
        omega
      · exact .inr far
    rw [text_of_scientific positional]
    by_cases plain : -6 < m.shortest.point ∧ m.shortest.point ≤ 21
    · rw [commonDigits_of_plain nonzero plain]
      exact iff_of_false (Decimal.scientific_ne_plain m.shortest.areDigits_digits 2 _) (by omega)
    · rw [commonDigits_of_not_plain nonzero plain, Decimal.scientific_eq_exponential_iff]
      omega

end Magnitude

theorem Binary64.ofList_eq_commonText_iff {s : Bool} {m : Magnitude} (nonzero : m.units ≠ 0)
    {cs : List Char} :
    String.ofList (signMark s ++ cs) = commonText s m ↔ cs = m.commonDigits := by
  unfold commonText
  rw [if_neg nonzero, String.ofList_inj, List.append_cancel_left_eq]

/-! ## Texts compared -/

namespace Number

variable {s : Bool} {m : Magnitude}

theorem toText_of_counted (nonzero : m.units ≠ 0) (whole : m.units % unitsPerOne = 0)
    (few : m.units < 10 ^ wholeDigits * unitsPerOne) :
    (float (.finite s m)).toText =
      .ok (String.ofList (signMark s ++ Nat.toDigits 10 (m.units / unitsPerOne))) := by
  have written : (float (.finite s m)).toText =
      .ok (toString (if s then -((m.units / unitsPerOne : Nat) : Int)
        else (m.units / unitsPerOne : Nat))) := if_pos ⟨whole, few⟩
  have positive : 0 < m.units / unitsPerOne :=
    Nat.div_pos (Nat.le_of_dvd (Nat.pos_of_ne_zero nonzero) (Nat.dvd_of_mod_eq_zero whole))
      unitsPerOne_pos
  rw [written, ← @String.ofList_toList (toString _), toList_toString_int]
  cases s with
  | true => rw [if_pos rfl, Int.natAbs_neg, Int.natAbs_natCast, decide_eq_true (by omega)]
  | false => rw [if_neg Bool.false_ne_true, Int.natAbs_natCast, decide_eq_false (by omega)]

theorem toText_of_uncounted
    (h : ¬(m.units % unitsPerOne = 0 ∧ m.units < 10 ^ wholeDigits * unitsPerOne)) :
    (float (.finite s m)).toText = .ok (String.ofList (signMark s ++ m.text)) := by
  have written : (float (.finite s m)).toText = .ok (Binary64.finite s m).written := if_neg h
  rw [written, ← Binary64.toList_written, String.ofList_toList]

/-- A finite number has a text. It is the common one exactly if the number, when
it is whole and below `1e21`, is its own shortest decimal, and is not between
`1e-9` and `1e-4`. -/
theorem toText_eq_commonText_iff (s : Bool) (m : Magnitude) :
    ∃ text, (Value.float (.finite s m)).toText = .ok text ∧
      (text = Binary64.commonText s m ↔
        ((Binary64.finite s m).isIntegral = true →
            (float (.finite false m)).lt (powerOfTen 21) = true → m.shortest.Denotes m) ∧
          ¬((powerOfTen (-9)).le (float (.finite false m)) = true ∧
            (float (.finite false m)).lt (powerOfTen (-4)) = true)) := by
  have asNumber : (Value.float (.finite s m)).toText = (float (.finite s m)).toText := by
    rw [Value.toText]
  rw [asNumber]
  by_cases zero : m.units = 0
  · obtain rfl : m = .zero := Magnitude.eq_of_units zero
    refine ⟨"0", ok_of_toOption ?_, iff_of_true rfl ⟨fun _ _ => ?_, ?_⟩⟩
    · cases s <;> decide +kernel
    · exact Magnitude.denotes_of_zero rfl
    · decide +kernel
  · have integral : (Binary64.finite s m).isIntegral = true ↔ m.units % unitsPerOne = 0 :=
      decide_eq_true_iff
    rw [integral, ← Magnitude.point_le_iff_lt zero (by decide),
      ← Magnitude.point_le_iff_lt zero (by decide), ← Magnitude.lt_point_iff_le zero (by decide)]
    by_cases counted : m.units % unitsPerOne = 0 ∧ m.units < 10 ^ wholeDigits * unitsPerOne
    · obtain ⟨whole, few⟩ := counted
      have places := (Magnitude.point_le_wholeDigits_iff zero).2 few
      have some_digit := Magnitude.point_pos_of_whole zero whole
      refine ⟨_, toText_of_counted zero whole few, ?_⟩
      rw [Binary64.ofList_eq_commonText_iff zero, Magnitude.toDigits_eq_commonDigits_iff zero
        (Nat.div_mul_cancel (Nat.dvd_of_mod_eq_zero whole)).symm places]
      constructor
      · exact fun exact => ⟨fun _ _ => exact, by omega⟩
      · exact fun agree => agree.1 whole places
    · have uncounted : m.units % unitsPerOne ≠ 0 ∨ 21 < m.shortest.point := by
        by_cases whole : m.units % unitsPerOne = 0
        · right
          rw [← Int.not_le, Magnitude.point_le_wholeDigits_iff zero]
          exact fun few => counted ⟨whole, few⟩
        · exact .inl whole
      refine ⟨_, toText_of_uncounted counted, ?_⟩
      rw [Binary64.ofList_eq_commonText_iff zero,
        Magnitude.text_eq_commonDigits_iff zero uncounted]
      constructor
      · refine fun agree => ⟨fun whole places => ?_, agree⟩
        rcases uncounted with fraction | far
        · exact absurd whole fraction
        · omega
      · exact fun agree => agree.2

/-- A hundred-thousandth is written with an exponent, and in common without one. -/
theorem toText_hundredThousandth :
    ∃ m, Binary64.ofDecimal false 1 (-5) = .finite false m ∧
      (Value.float (.finite false m)).toText = .ok "1e-05" ∧
        Binary64.commonText false m = "0.00001" := by
  have both : (Magnitude.round? (1 * 10 ^ 0 * unitsPerOne) (10 ^ 5)).any (fun m =>
      decide ((Value.float (.finite false m)).toText.toOption = some "1e-05" ∧
        Binary64.commonText false m = "0.00001")) = true := by decide +kernel
  obtain ⟨m, rounded, own⟩ := (Option.any_eq_true _ _).1 both
  obtain ⟨written, common⟩ := of_decide_eq_true own
  refine ⟨m, ?_, ok_of_toOption written, common⟩
  rw [Binary64.ofDecimal_eq]
  exact Binary64.ofUnits_of_round? rounded

end Number

end FeatureGates
