import FeatureGates.Proofs.DecimalNumerals

/-!
# Layouts read back

A decimal is laid out in positional notation or with an exponent, and
`DecimalNumeral.scan?` reads either layout whole, under either sign, as the
number that the decimal denotes (`Decimal.isReadFrom_positional`,
`Decimal.isReadFrom_scientific`). Either layout is a decimal numeral, and
the two rest on one lemma about the parts of such a numeral
(`Decimal.isReadFrom_parts`).
-/

namespace FeatureGates

/-! Powers of natural numbers are the ones of core. -/

attribute [local instance (2000)] instPowNat

namespace Text

/-! ## Integers -/

theorem toList_toString_int (n : Int) :
    (toString n).toList = signMark (decide (n < 0)) ++ Nat.toDigits 10 n.natAbs := by
  cases n with
  | ofNat n =>
    show (Nat.repr n).toList = _
    rw [Nat.toList_repr, decide_eq_false (by simp)]
    rfl
  | negSucc n =>
    show ("-" ++ Nat.repr (n + 1)).toList = _
    rw [String.toList_append, Nat.toList_repr, decide_eq_true (Int.negSucc_lt_zero n)]
    rfl

theorem toDigits_eq_cons (n : Nat) : ∃ c cs, Nat.toDigits 10 n = c :: cs ∧ c.isDigit = true := by
  cases written : Nat.toDigits 10 n with
  | nil => exact absurd written Nat.toDigits_ne_nil
  | cons c cs => exact ⟨c, cs, rfl, areDigits_toDigits n c (written ▸ List.mem_cons_self)⟩

end Text

namespace Decimal

open Text

/-! ## Layouts -/

/-- A decimal may be given by its significant digits alone. -/
theorem ofDecimal_significand (d : Decimal) (s : Bool) :
    Binary64.ofDecimal s d.significand (d.point - d.digits.length) =
      Binary64.ofDecimal s d.coefficient d.exponent := by
  obtain ⟨k, coefficient, exponent⟩ := d.coefficient_eq
  rw [coefficient, Binary64.ofDecimal_shift, exponent]

theorem length_zeros (n : Nat) : (zeros n).length = n := List.length_replicate

theorem zeros_one : zeros 1 = ['0'] := rfl

theorem zeros_append_zeros (m n : Nat) : zeros m ++ zeros n = zeros (m + n) :=
  List.replicate_append_replicate

/-- Reading a text gives a decimal and leaves nothing. -/
def IsReadFrom (d : Decimal) (negative : Bool) (cs : List Char) : Prop :=
  ∃ numeral, DecimalNumeral.scan? (signMark negative ++ cs) = some (numeral, [])
    ∧ numeral.toBinary64 = .ofDecimal negative d.coefficient d.exponent

/-- A text is read as a decimal if its digits spell the significand, up to
zeros that its exponent makes up for. -/
theorem isReadFrom_parts {d : Decimal} (negative : Bool)
    {whole point fraction power : List Char} {exponent : Int} (k : Nat) (hw : AreDigits whole)
    (hf : Fraction point fraction) (he : Exponent power exponent) (some_digit : whole ≠ [])
    (hv : Nat.ofDigitChars 10 (whole ++ fraction) 0 = d.significand * 10 ^ k)
    (place : exponent - fraction.length + k = d.point - d.digits.length) :
    d.IsReadFrom negative (whole ++ (point ++ power)) := by
  have numeral := IsDecimal.intro (.ofNegative negative) hw hf he
    (List.append_ne_nil_of_left_ne_nil some_digit fraction)
  rw [Sign.chars_ofNegative, Sign.isNegative_ofNegative] at numeral
  refine ⟨_, DecimalNumeral.scan?_of_isDecimal numeral, ?_⟩
  rw [DecimalNumeral.toBinary64_values, hv, Binary64.ofDecimal_shift, place,
    d.ofDecimal_significand]

/-- Positional notation has digits, then a point, then digits again. -/
theorem positional_eq_point {digits : List Char} (hd : AreDigits digits) (point : Int) :
    ∃ whole fraction, positional digits point = whole ++ '.' :: fraction
      ∧ whole ≠ [] ∧ AreDigits whole ∧ AreDigits fraction := by
  unfold positional
  by_cases small : point ≤ 0
  · rw [if_pos small]
    exact ⟨zeros 1, zeros (-point).toNat ++ digits, rfl, List.cons_ne_nil _ _, areDigits_zeros 1,
      (areDigits_zeros _).append hd⟩
  rw [if_neg small]
  by_cases long : digits.length ≤ point.toNat
  · rw [if_pos long]
    refine ⟨digits ++ zeros (point.toNat - digits.length), zeros 1, rfl, ?_,
      hd.append (areDigits_zeros _), areDigits_zeros 1⟩
    refine List.ne_nil_of_length_pos ?_
    rw [List.length_append, length_zeros]
    omega
  · rw [if_neg long]
    refine ⟨digits.take point.toNat, digits.drop point.toNat, rfl, ?_,
      fun c hc => hd c (List.mem_of_mem_take hc), fun c hc => hd c (List.mem_of_mem_drop hc)⟩
    refine List.ne_nil_of_length_pos ?_
    rw [List.length_take]
    omega

theorem isReadFrom_positional (d : Decimal) (negative : Bool) :
    d.IsReadFrom negative (positional d.digits d.point) := by
  have digits := d.areDigits_digits
  unfold positional
  by_cases small : d.point ≤ 0
  · rw [if_pos small]
    have spelled : Nat.ofDigitChars 10 (['0'] ++ (zeros (-d.point).toNat ++ d.digits)) 0
        = d.significand * 10 ^ 0 := by
      have zero : ['0'] ++ (zeros (-d.point).toNat ++ d.digits)
          = zeros (1 + (-d.point).toNat) ++ d.digits := by
        rw [← zeros_append_zeros, List.append_assoc, zeros_one]
      rw [zero, ofDigitChars_zeros_append, Nat.pow_zero, Nat.mul_one, significand]
    have place : (0 : Int) - (zeros (-d.point).toNat ++ d.digits).length + (0 : Nat)
        = d.point - d.digits.length := by
      rw [List.length_append, length_zeros]
      omega
    have fraction := Fraction.point ((areDigits_zeros (-d.point).toNat).append digits)
    have read := isReadFrom_parts negative 0 (areDigits_zeros 1) fraction .none
      (List.cons_ne_nil '0' []) spelled place
    rwa [List.append_nil] at read
  rw [if_neg small]
  by_cases long : d.digits.length ≤ d.point.toNat
  · rw [if_pos long]
    have spelled : Nat.ofDigitChars 10
        (d.digits ++ zeros (d.point.toNat - d.digits.length) ++ ['0']) 0
        = d.significand * 10 ^ (d.point.toNat - d.digits.length + 1) := by
      have zero : d.digits ++ zeros (d.point.toNat - d.digits.length) ++ ['0']
          = d.digits ++ zeros (d.point.toNat - d.digits.length + 1) := by
        rw [← zeros_append_zeros, List.append_assoc, zeros_one]
      rw [zero, ofDigitChars_append_zeros, significand]
    have place : (0 : Int) - (['0'] : List Char).length
        + (d.point.toNat - d.digits.length + 1 : Nat) = d.point - d.digits.length := by
      rw [List.length_singleton]
      omega
    have some_digit : d.digits ++ zeros (d.point.toNat - d.digits.length) ≠ [] := by
      refine List.ne_nil_of_length_pos ?_
      rw [List.length_append, length_zeros]
      omega
    have read := isReadFrom_parts negative _ (digits.append (areDigits_zeros _))
      (.point (areDigits_zeros 1)) .none some_digit spelled place
    rwa [List.append_nil] at read
  · rw [if_neg long]
    have spelled : Nat.ofDigitChars 10
        (d.digits.take d.point.toNat ++ d.digits.drop d.point.toNat) 0
        = d.significand * 10 ^ 0 := by
      rw [List.take_append_drop, Nat.pow_zero, Nat.mul_one, significand]
    have place : (0 : Int) - (d.digits.drop d.point.toNat).length + (0 : Nat)
        = d.point - d.digits.length := by
      rw [List.length_drop]
      omega
    have some_digit : d.digits.take d.point.toNat ≠ [] := by
      refine List.ne_nil_of_length_pos ?_
      rw [List.length_take]
      omega
    have fraction : Fraction ('.' :: d.digits.drop d.point.toNat) (d.digits.drop d.point.toNat) :=
      .point fun c hc => digits c (List.mem_of_mem_drop hc)
    have read := isReadFrom_parts negative 0 (fun c hc => digits c (List.mem_of_mem_take hc))
      fraction .none some_digit spelled place
    rwa [List.append_nil] at read

/-- The exponent that a layout ends in, filled up with zeros. -/
theorem exponent_scientific (d : Decimal) (width : Nat) :
    Exponent ('e' :: (if d.point < 1 then '-' else '+') ::
        (zeros (width - (Nat.toDigits 10 (d.point - 1).natAbs).length)
          ++ Nat.toDigits 10 (d.point - 1).natAbs)) (d.point - 1) := by
  have digits := (areDigits_zeros (width - (Nat.toDigits 10 (d.point - 1).natAbs).length)).append
    (areDigits_toDigits (d.point - 1).natAbs)
  have some_digit := List.append_ne_nil_of_right_ne_nil
    (zeros (width - (Nat.toDigits 10 (d.point - 1).natAbs).length))
    (@Nat.toDigits_ne_nil (d.point - 1).natAbs 10)
  have spelled (sign : Sign) := Exponent.power (.inl rfl) sign some_digit digits
  simp only [ofDigitChars_zeros_append, Nat.ofDigitChars_ten_toDigits, Sign.apply] at spelled
  by_cases small : d.point < 1
  · rw [if_pos small]
    have power := spelled .minus
    have value : (if Sign.minus.isNegative then -((d.point - 1).natAbs : Int)
        else (d.point - 1).natAbs) = d.point - 1 := by
      show -((d.point - 1).natAbs : Int) = _
      omega
    rwa [value] at power
  · rw [if_neg small]
    have power := spelled .plus
    have value : (if Sign.plus.isNegative then -((d.point - 1).natAbs : Int)
        else (d.point - 1).natAbs) = d.point - 1 := by
      show ((d.point - 1).natAbs : Int) = _
      omega
    rwa [value] at power

theorem isReadFrom_scientific (d : Decimal) (negative : Bool) (width : Nat)
    (h : d.coefficient ≠ 0) :
    d.IsReadFrom negative (scientific width d.digits d.point) := by
  have digits := d.areDigits_digits
  have power := d.exponent_scientific width
  obtain ⟨c, cs, eq⟩ := List.exists_cons_of_ne_nil (d.digits_ne_nil h)
  have spelled : Nat.ofDigitChars 10 (c :: cs) 0 = d.significand * 10 ^ 0 := by
    rw [significand, eq, Nat.pow_zero, Nat.mul_one]
  have place : d.point - 1 - cs.length + (0 : Nat) = d.point - d.digits.length := by
    rw [eq, List.length_cons]
    omega
  have lead : AreDigits [c] := by
    intro x hx
    rw [List.mem_singleton.1 hx]
    exact digits c (eq ▸ List.mem_cons_self)
  have rest : AreDigits cs := fun x hx => digits x (eq ▸ List.mem_cons_of_mem c hx)
  -- without other digits there is no point, and the exponent comes right after the digit
  have fraction : Fraction (if d.digits.length ≤ 1 then [] else '.' :: cs) cs := by
    cases cs with
    | nil =>
      rw [eq, if_pos (show [c].length ≤ 1 from Nat.le_refl 1)]
      exact .none
    | cons x xs =>
      rw [eq, if_neg (by simp)]
      exact .point rest
  have read := isReadFrom_parts negative 0 lead fraction power (List.cons_ne_nil c []) spelled place
  unfold scientific
  rw [eq] at read ⊢
  simpa using read

end Decimal

end FeatureGates
