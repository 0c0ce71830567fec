import FeatureGates.Gate.Values
import FeatureGates.Proofs.Layout

/-!
# Numbers read back from their texts

A store keeps a number as its text, and `Raw.leadingNumber` reads it off
the front of that text: as a floating-point number if there is a point
anywhere, as an integer otherwise.

An integer always reads back (`Raw.leadingNumber_of_writeInt`). A finite
floating-point number reads back if its text has a point
(`Raw.leadingNumber_of_point`). The only texts without one are a digit with
an exponent, such as `1e-05`; from these the digit is read, which is another
number (`Raw.leadingNumber_written`).
-/

namespace FeatureGates

/-! Powers of natural numbers are the ones of core. -/

attribute [local instance (2000)] instPowNat

open Text

/-! ## Integers -/

theorem Text.point_not_mem_signMark (negative : Bool) : '.' ∉ signMark negative := by
  cases negative <;> decide

theorem Text.point_not_mem_toString (n : Int) : '.' ∉ (toString n).toList := by
  rw [toList_toString_int]
  intro mem
  rcases List.mem_append.1 mem with sign | digit
  · exact point_not_mem_signMark _ sign
  · exact absurd (areDigits_toDigits n.natAbs _ digit) (by decide)

/-- An integer is its size with its sign. -/
theorem signed_natAbs (n : Int) :
    (if decide (n < 0) = true then -(n.natAbs : Int) else n.natAbs) = n := by
  by_cases negative : n < 0
  · rw [if_pos (decide_eq_true negative)]
    omega
  · rw [if_neg (by simpa using negative)]
    omega

namespace Raw

/-- The integer that a sign and digits spell, read off the front of a text. -/
theorem leadingInt_signMark (negative : Bool) {digits rest : List Char} (hne : digits ≠ [])
    (hd : AreDigits digits) (hr : Stops rest) (hlimit : digits.length ≤ digitLimit) :
    leadingInt (signMark negative ++ (digits ++ rest)) =
      .ok (if negative then -(Nat.ofDigitChars 10 digits 0 : Int)
        else Nat.ofDigitChars 10 digits 0) := by
  obtain ⟨c, cs, rfl⟩ := List.exists_cons_of_ne_nil hne
  have sign := signed_signMark negative (cs ++ rest)
    (startsNumeral_of_isDigit (hd c List.mem_cons_self))
  have taken := takeDigits_append hd hr
  have some_digits : values (c :: cs) ≠ [] := List.cons_ne_nil _ _
  have short : ¬digitLimit < (values (c :: cs)).length := by
    rw [length_values]
    omega
  rw [List.cons_append] at taken
  simp only [leadingInt, List.cons_append, sign, taken]
  rw [if_neg short, valueOfDigits_values]

theorem leadingNumber_of_writeInt {n : Int} {text : String} (h : writeInt n = .ok text) :
    leadingNumber text = .ok (.int n) := by
  unfold writeInt at h
  split at h
  · rename_i small
    cases h
    obtain ⟨c, cs, written, digit⟩ := toDigits_eq_cons n.natAbs
    have limit : (Nat.toDigits 10 n.natAbs).length ≤ digitLimit :=
      (Nat.length_toDigits_le_iff (by decide) (by decide)).2 small
    have read := leadingInt_signMark (decide (n < 0)) Nat.toDigits_ne_nil
      (areDigits_toDigits n.natAbs) stops_nil limit
    have front := dropBlanks_signMark (decide (n < 0)) cs (startsNumeral_of_isDigit digit)
    have plain : (toString n).toList.contains '.' = false := by
      rw [← Bool.not_eq_true, List.contains_iff_mem]
      exact point_not_mem_toString n
    rw [← written, ← toList_toString_int] at front
    rw [List.append_nil, ← toList_toString_int, Nat.ofDigitChars_ten_toDigits] at read
    simp only [leadingNumber, plain, Bool.false_eq_true, if_false, front, read]
    exact congrArg (Except.ok ∘ Number.int) (signed_natAbs n)
  · cases h

end Raw

/-! ## Floating-point numbers -/

namespace Magnitude

theorem shortest_of_zero {m : Magnitude} (h : m.units = 0) : m.shortest = ⟨0, 0⟩ := if_pos h

theorem shortest_coefficient_ne_zero {m : Magnitude} (h : m.units ≠ 0) :
    m.shortest.coefficient ≠ 0 := by
  intro zero
  have read := m.ofDecimal_shortest false
  rw [zero, Binary64.ofDecimal, if_pos rfl] at read
  cases read
  exact h rfl

/-- The text of a size, without a sign. -/
def text (m : Magnitude) : List Char := m.shortest.layout plainStyle

/-- A size is written without an exponent, or it is not zero and far from one. -/
theorem text_cases (m : Magnitude) :
    m.text = Decimal.positional m.shortest.digits m.shortest.point ∨
      m.shortest.coefficient ≠ 0 ∧ (m.shortest.point < -3 ∨ 16 < m.shortest.point) ∧
        m.text = Decimal.scientific 2 m.shortest.digits m.shortest.point := by
  unfold text Decimal.layout
  by_cases zero : m.units = 0
  · rw [shortest_of_zero zero]
    exact .inl rfl
  · split
    · exact .inl rfl
    · rename_i far
      have far : ¬(-3 ≤ m.shortest.point ∧ m.shortest.point ≤ 16) := far
      exact .inr ⟨shortest_coefficient_ne_zero zero, by omega, rfl⟩

theorem isReadFrom_text (m : Magnitude) (s : Bool) : m.shortest.IsReadFrom s m.text := by
  rcases m.text_cases with positional | ⟨nonzero, -, scientific⟩
  · rw [positional]
    exact m.shortest.isReadFrom_positional s
  · rw [scientific]
    exact m.shortest.isReadFrom_scientific s 2 nonzero

/-- A size whose text has no point is written as one digit with an exponent. -/
theorem exists_digit_of_text {m : Magnitude} (h : '.' ∉ m.text) :
    m.shortest.coefficient ≠ 0 ∧ (m.shortest.point < -3 ∨ 16 < m.shortest.point) ∧
      ∃ c tail, m.shortest.digits = [c] ∧ m.text = c :: 'e' :: tail := by
  rcases m.text_cases with positional | ⟨nonzero, far, scientific⟩
  · obtain ⟨whole, fraction, eq, -⟩ := Decimal.positional_eq_point m.shortest.areDigits_digits
      m.shortest.point
    rw [positional, eq] at h
    exact absurd (List.mem_append_right whole List.mem_cons_self) h
  · obtain ⟨c, cs, eq⟩ := List.exists_cons_of_ne_nil (m.shortest.digits_ne_nil nonzero)
    refine ⟨nonzero, far, c, ?_⟩
    rw [scientific, eq] at h ⊢
    cases cs with
    | nil => exact ⟨_, rfl, rfl⟩
    | cons d cs => exact absurd (by simp [Decimal.scientific]) h

theorem text_eq_cons (m : Magnitude) : ∃ c cs, m.text = c :: cs ∧ c.isDigit = true := by
  have digits := m.shortest.areDigits_digits
  rcases m.text_cases with positional | ⟨nonzero, -, scientific⟩
  · obtain ⟨whole, fraction, eq, some_digit, areDigits, -⟩ :=
      Decimal.positional_eq_point digits m.shortest.point
    obtain ⟨c, cs, rfl⟩ := List.exists_cons_of_ne_nil some_digit
    exact ⟨c, cs ++ '.' :: fraction, positional.trans eq, areDigits c List.mem_cons_self⟩
  · obtain ⟨c, cs, eq⟩ := List.exists_cons_of_ne_nil (m.shortest.digits_ne_nil nonzero)
    rw [eq] at scientific digits
    exact ⟨c, _, scientific, digits c List.mem_cons_self⟩

/-! ### One digit with an exponent -/

/-- The size is the rounding of its significand at the place of its last digit. -/
theorem units_eq_roundToPrecision (m : Magnitude) {e : Int}
    (he : e = m.shortest.point - m.shortest.digits.length) :
    m.units = roundToPrecision (m.shortest.significand * 10 ^ e.toNat * unitsPerOne)
      (10 ^ (-e).toNat) := by
  have read := m.ofDecimal_shortest false
  rw [← Decimal.ofDecimal_significand, ← he, Binary64.ofDecimal_eq] at read
  exact Binary64.units_of_ofUnits read

/-- A decimal of one digit below a ten thousandth of the digit. -/
theorem roundToPrecision_lt_of_small {units k : Nat} (hu : 2 ≤ units) (hk : 5 ≤ k) :
    roundToPrecision units (10 ^ k) < units := by
  have bound := roundToPrecision_le units (10 ^ k)
  have power : 10 ^ 5 ≤ 10 ^ k := Binary64.ten_pow_le hk
  have quotient : units / 10 ^ k ≤ units / 10 ^ 5 := Nat.div_le_div_left power (by decide)
  omega

/-- A decimal of one digit from ten quadrillions of the digit on. -/
theorem lt_roundToPrecision_of_large {digit k : Nat} (hpos : 0 < digit) (hd : digit < 10)
    (hk : 16 ≤ k) :
    digit * unitsPerOne < roundToPrecision (digit * 10 ^ k * unitsPerOne) 1 := by
  have step : (2 : Nat) ^ 53 ≤ 10 ^ 16 := by decide
  have power : 10 ^ 16 ≤ 10 ^ k := Binary64.ten_pow_le hk
  have whole : 10 ^ k ≤ digit * 10 ^ k := Nat.le_mul_of_pos_left _ hpos
  have reached : 2 ^ (53 + unitExponent) ≤ digit * 10 ^ k * unitsPerOne / 1 := by
    rw [Nat.div_one]
    exact Binary64.two_pow_add_le unitExponent (Nat.le_trans step (Nat.le_trans power whole))
  have few : digit < 2 ^ 53 := Nat.lt_of_lt_of_le hd (by decide)
  calc digit * unitsPerOne < 2 ^ 53 * unitsPerOne :=
        Nat.mul_lt_mul_of_pos_right few (Nat.two_pow_pos unitExponent)
    _ = 2 ^ (53 + unitExponent) := by rw [Nat.pow_add, unitsPerOne]
    _ ≤ _ := two_pow_le_roundToPrecision reached

/-- What is left of a size when its exponent is dropped. -/
theorem significand_lt_of_text {m : Magnitude} (h : '.' ∉ m.text) :
    m.shortest.significand < 10 := by
  obtain ⟨-, -, c, -, digits, -⟩ := exists_digit_of_text h
  have digit := m.shortest.areDigits_digits c (digits ▸ List.mem_cons_self)
  have high : c.toNat ≤ 57 := (Char.isDigit_iff_toNat.1 digit).2
  have value : m.shortest.significand = 10 * 0 + (c.toNat - 48) := by
    rw [Decimal.significand, digits]
    rfl
  omega

/-- One digit with an exponent is far from what the digit alone says. -/
theorem units_ne_of_text {m : Magnitude} (h : '.' ∉ m.text) :
    m.units ≠ m.shortest.significand * unitsPerOne := by
  obtain ⟨nonzero, far, c, -, digits, -⟩ := exists_digit_of_text h
  have few := significand_lt_of_text h
  have some_digit : 0 < m.shortest.significand := Decimal.significand_pos nonzero
  have units := m.units_eq_roundToPrecision rfl
  rw [digits, List.length_singleton] at units
  rcases far with small | large
  · have none : (m.shortest.point - (1 : Nat)).toNat = 0 := by omega
    have unit : 2 ≤ unitsPerOne := by decide +kernel
    rw [none, Nat.pow_zero, Nat.mul_one] at units
    rw [units]
    refine Nat.ne_of_lt (roundToPrecision_lt_of_small ?_ (by omega))
    exact Nat.le_trans unit (Nat.le_mul_of_pos_left _ some_digit)
  · have none : (-(m.shortest.point - (1 : Nat))).toNat = 0 := by omega
    rw [none, Nat.pow_zero] at units
    rw [units]
    exact Nat.ne_of_gt (lt_roundToPrecision_of_large some_digit few (by omega))

end Magnitude

namespace Binary64

theorem toList_written (s : Bool) (m : Magnitude) :
    (finite s m).written.toList = signMark s ++ m.text := by
  cases s <;> exact String.toList_ofList

theorem point_mem_written (s : Bool) (m : Magnitude) :
    '.' ∈ (finite s m).written.toList ↔ '.' ∈ m.text := by
  rw [toList_written, List.mem_append]
  exact or_iff_right (point_not_mem_signMark s)

end Binary64

namespace Raw

open Binary64

/-- A floating-point number whose text has a point reads back as itself. -/
theorem leadingNumber_of_point {s : Bool} {m : Magnitude}
    (h : '.' ∈ (finite s m).written.toList) :
    leadingNumber (finite s m).written = .ok (.float (.finite s m)) := by
  obtain ⟨c, cs, text, digit⟩ := m.text_eq_cons
  obtain ⟨numeral, scanned, value⟩ := m.isReadFrom_text s
  have front := dropBlanks_signMark s cs (startsNumeral_of_isDigit digit)
  rw [← text] at front
  rw [m.ofDecimal_shortest s] at value
  unfold leadingNumber
  rw [if_pos (List.contains_iff_mem.2 h), toList_written]
  simp only [front, scanned, value]

/-- Without a point, the digit in front of the exponent is read. -/
theorem leadingNumber_of_no_point {s : Bool} {m : Magnitude}
    (h : '.' ∉ (finite s m).written.toList) :
    leadingNumber (finite s m).written =
      .ok (.int (if s then -(m.shortest.significand : Int) else m.shortest.significand)) := by
  have lone : '.' ∉ m.text := fun mem => h ((point_mem_written s m).2 mem)
  obtain ⟨-, -, c, tail, digits, text⟩ := Magnitude.exists_digit_of_text lone
  have areDigits := m.shortest.areDigits_digits
  rw [digits] at areDigits
  have front := dropBlanks_signMark s ('e' :: tail)
    (startsNumeral_of_isDigit (areDigits c List.mem_cons_self))
  have read := leadingInt_signMark s (List.cons_ne_nil c []) areDigits
    (@stops_cons 'e' tail digitValue?_e) (show 1 ≤ digitLimit by decide)
  have plain : ¬(finite s m).written.toList.contains '.' = true := by
    rwa [List.contains_iff_mem]
  unfold leadingNumber
  rw [if_neg plain, toList_written, text, front]
  rw [List.singleton_append] at read
  simp only [read, Decimal.significand, digits]
  rfl

/-- The text of a finite number is always read as some number, and as an
equal one exactly if it has a point. -/
theorem leadingNumber_written (s : Bool) (m : Magnitude) :
    ∃ q, leadingNumber (finite s m).written = .ok q ∧
      (q.eq (.float (.finite s m)) = true ↔ '.' ∈ (finite s m).written.toList) := by
  by_cases h : '.' ∈ (finite s m).written.toList
  · refine ⟨_, leadingNumber_of_point h, iff_of_true ?_ h⟩
    simp only [Number.eq, Number.position?, Binary64.position?, decide_true]
  · refine ⟨_, leadingNumber_of_no_point h, ?_⟩
    have other := Magnitude.units_ne_of_text fun mem => h ((point_mem_written s m).2 mem)
    refine iff_of_false ?_ h
    intro same
    have place : (if s then -(m.shortest.significand : Int) else m.shortest.significand)
        * (unitsPerOne : Int) = signedUnits s m := by
      simp only [Number.eq, Number.position?, Binary64.position?, decide_eq_true_eq] at same
      injection same
    refine other (Int.ofNat.inj ?_)
    cases s with
    | true =>
      have place : -(m.shortest.significand : Int) * unitsPerOne = -(m.units : Int) := place
      rw [Int.neg_mul] at place
      exact (Int.neg_inj.1 place).symm
    | false =>
      exact place.symm

end Raw

end FeatureGates
