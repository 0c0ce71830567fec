import FeatureGates.Number.Shortest
import FeatureGates.Text.Numeral

/-!
# Digits and the numbers they spell

`Nat.toDigits` writes a number and `Text.takeDigits` reads digits of any
script. On ASCII digits the two agree: a run of them is taken off whole
(`takeDigits_append`) and spells the number that `Nat.ofDigitChars` reads
(`valueOfDigits_values`). Off a text of ASCII, digits of ASCII are taken
(`exists_takeDigits`).

The significant digits of a decimal are the digits of its coefficient but
for the zeros at the end (`Decimal.coefficient_eq`).
-/

namespace FeatureGates

/-! Powers of natural numbers are the ones of core. -/

attribute [local instance (2000)] instPowNat

namespace Text

/-! ## Runs of ASCII digits -/

/-- The values of ASCII digits. -/
def values (digits : List Char) : List Nat := digits.map fun c => c.toNat - '0'.toNat

@[simp] theorem length_values (digits : List Char) : (values digits).length = digits.length := by
  simp [values]

@[simp] theorem values_append (a b : List Char) : values (a ++ b) = values a ++ values b := by
  simp [values]

/-- The characters are ASCII digits. -/
def AreDigits (cs : List Char) : Prop := ∀ c ∈ cs, c.isDigit = true

/-- The text does not go on with a digit. -/
def Stops (cs : List Char) : Prop := ∀ c ∈ cs.head?, digitValue? c = none

theorem stops_nil : Stops [] := by
  intro c hc
  cases hc

theorem stops_cons {c : Char} {cs : List Char} (h : digitValue? c = none) : Stops (c :: cs) := by
  intro d hd
  cases hd
  exact h

theorem digitValue?_of_isDigit {c : Char} (h : c.isDigit = true) :
    digitValue? c = some (c.toNat - '0'.toNat) := by
  obtain ⟨low, high⟩ := Char.isDigit_iff_toNat.1 h
  have low : 48 ≤ c.toNat := low
  have high : c.toNat ≤ 57 := high
  have first : (decide (0x30 ≤ c.toNat) && decide (c.toNat < 0x30 + 10)) = true := by
    simp only [Bool.and_eq_true, decide_eq_true_eq]
    omega
  have zeros : digitZeros = 0x30 :: digitZeros.tail := rfl
  rw [digitValue?, zeros, List.find?_cons_of_pos (by exact first)]
  rfl

/-- A digit of any script lies in a run of ten. -/
theorem exists_digitZero {c : Char} {digit : Nat} (h : digitValue? c = some digit) :
    ∃ start ∈ digitZeros, start ≤ c.toNat ∧ c.toNat < start + 10 := by
  obtain ⟨start, found, -⟩ := Option.map_eq_some_iff.1 h
  have within := List.find?_some found
  simp only [Bool.and_eq_true, decide_eq_true_eq] at within
  exact ⟨start, List.mem_of_find?_eq_some found, within⟩

/-- The digits of ASCII are its only digits of any script. -/
theorem isDigit_of_digitValue? {c : Char} (ascii : c.toNat < 0x7F) {digit : Nat}
    (h : digitValue? c = some digit) : c.isDigit = true := by
  obtain ⟨start, mem, within⟩ := exists_digitZero h
  have others : digitZeros.all (fun start => decide (start = 0x30 ∨ 0x7F ≤ start)) = true := by
    decide
  have first := of_decide_eq_true (List.all_eq_true.1 others start mem)
  have low : 48 ≤ c.toNat := by omega
  have high : c.toNat ≤ 57 := by omega
  exact Char.isDigit_iff_toNat.2 ⟨low, high⟩

/-- A run of digits is taken off whole. -/
theorem takeDigits_append {digits rest : List Char} (hd : AreDigits digits) (hr : Stops rest) :
    takeDigits (digits ++ rest) = (values digits, rest) := by
  induction digits with
  | nil =>
    cases rest with
    | nil => rfl
    | cons c rest =>
      have none : digitValue? c = none := hr c rfl
      simp only [List.nil_append, takeDigits, none]
      rfl
  | cons d digits ih =>
    have value := digitValue?_of_isDigit (hd d List.mem_cons_self)
    have more := ih fun c hc => hd c (List.mem_cons_of_mem d hc)
    simp only [List.cons_append, takeDigits, value, more]
    rfl

theorem takeDigits_digits {digits : List Char} (hd : AreDigits digits) :
    takeDigits digits = (values digits, []) := by
  have taken := takeDigits_append hd stops_nil
  rwa [List.append_nil] at taken

/-- What is taken off the front of a text are digits. -/
theorem takeDigits_split (cs : List Char) : ∃ front, cs = front ++ (takeDigits cs).2 ∧
    front.map digitValue? = (takeDigits cs).1.map some := by
  induction cs with
  | nil => exact ⟨[], rfl, rfl⟩
  | cons c cs ih =>
    unfold takeDigits
    split
    · rename_i digit value
      obtain ⟨front, text, digits⟩ := ih
      refine ⟨c :: front, congrArg (c :: ·) text, ?_⟩
      rw [List.map_cons, List.map_cons, value, digits]
    · exact ⟨[], rfl, rfl⟩

/-- What is taken off the front of an ASCII text are ASCII digits. -/
theorem exists_takeDigits {cs : List Char} (ascii : ∀ c ∈ cs, c.toNat < 0x7F) :
    ∃ digits, AreDigits digits ∧ values digits = (takeDigits cs).1 ∧
      cs = digits ++ (takeDigits cs).2 := by
  obtain ⟨front, text, digits⟩ := takeDigits_split cs
  have areDigits : AreDigits front := by
    intro c mem
    have digit : digitValue? c ∈ (takeDigits cs).1.map some := digits ▸ List.mem_map_of_mem mem
    obtain ⟨digit, -, value⟩ := List.mem_map.1 digit
    exact isDigit_of_digitValue? (ascii c (text ▸ List.mem_append_left _ mem)) value.symm
  have own : front.map digitValue? = (values front).map some := by
    rw [values, List.map_map]
    exact List.map_congr_left fun c mem => digitValue?_of_isDigit (areDigits c mem)
  refine ⟨front, areDigits, ?_, text⟩
  exact (List.map_inj_right fun _ _ => Option.some.inj).1 (own.symm.trans digits)

/-! ## What a run of digits spells -/

theorem valueOfDigits_values (digits : List Char) :
    valueOfDigits 10 (values digits) = Nat.ofDigitChars 10 digits 0 := by
  rw [valueOfDigits, values, List.foldl_map, Nat.ofDigitChars_eq_foldl]

theorem areDigits_toDigits (n : Nat) : AreDigits (Nat.toDigits 10 n) := fun _ hc =>
  Nat.isDigit_of_mem_toDigits (by decide) (by decide) hc

theorem isDigit_zero : '0'.isDigit = true := by decide

theorem AreDigits.append {a b : List Char} (ha : AreDigits a) (hb : AreDigits b) :
    AreDigits (a ++ b) := by
  intro c hc
  rcases List.mem_append.1 hc with h | h
  · exact ha c h
  · exact hb c h

theorem areDigits_zeros (n : Nat) : AreDigits (Decimal.zeros n) := by
  intro c hc
  rw [List.eq_of_mem_replicate hc]
  exact isDigit_zero

/-- Zeros in front add nothing. -/
theorem ofDigitChars_zeros_append (n : Nat) (digits : List Char) :
    Nat.ofDigitChars 10 (Decimal.zeros n ++ digits) 0 = Nat.ofDigitChars 10 digits 0 := by
  rw [Nat.ofDigitChars_append, Decimal.zeros, Nat.ofDigitChars_replicate_zero, Nat.mul_zero]

/-- Each zero at the end is a factor of ten. -/
theorem ofDigitChars_append_zeros (n : Nat) (digits : List Char) :
    Nat.ofDigitChars 10 (digits ++ Decimal.zeros n) 0 = Nat.ofDigitChars 10 digits 0 * 10 ^ n := by
  rw [Nat.ofDigitChars_append, Decimal.zeros, Nat.ofDigitChars_replicate_zero, Nat.mul_comm]

/-- Each factor of ten is a zero at the end. -/
theorem toDigits_mul_ten_pow {n : Nat} (h : 0 < n) (k : Nat) :
    Nat.toDigits 10 (n * 10 ^ k) = Nat.toDigits 10 n ++ Decimal.zeros k := by
  induction k with
  | zero => rw [Nat.pow_zero, Nat.mul_one, Decimal.zeros, List.replicate_zero, List.append_nil]
  | succ k ih =>
    have positive : 0 < n * 10 ^ k := Nat.mul_pos h (Nat.pow_pos (by decide))
    have last := Nat.toDigits_append_toDigits (b := 10) (d := 0) (by decide) positive (by decide)
    have zero : Nat.toDigits 10 0 = List.replicate 1 '0' := rfl
    rw [Nat.add_zero, ih, zero, List.append_assoc, Decimal.zeros,
      List.replicate_append_replicate] at last
    rw [Nat.pow_succ, ← Nat.mul_assoc, Nat.mul_comm _ 10]
    exact last.symm

end Text

namespace Decimal

open Text

/-! ## The significant digits of a decimal -/

theorem toDigits_eq_digits_append (d : Decimal) :
    ∃ k, Nat.toDigits 10 d.coefficient = d.digits ++ zeros k := by
  unfold digits
  generalize Nat.toDigits 10 d.coefficient = written
  refine ⟨(written.reverse.takeWhile (· = '0')).length, ?_⟩
  have zero : written.reverse.takeWhile (· = '0')
      = zeros (written.reverse.takeWhile (· = '0')).length := by
    refine List.eq_replicate_iff.2 ⟨rfl, fun c hc => ?_⟩
    exact of_decide_eq_true (List.all_eq_true.1 List.all_takeWhile c hc)
  have split := List.takeWhile_append_dropWhile
    (p := fun c : Char => decide (c = '0')) (l := written.reverse)
  have whole := congrArg List.reverse split
  rw [List.reverse_append, List.reverse_reverse, zero, zeros, List.reverse_replicate] at whole
  exact whole.symm

theorem areDigits_digits (d : Decimal) : AreDigits d.digits := by
  obtain ⟨k, whole⟩ := d.toDigits_eq_digits_append
  intro c hc
  refine areDigits_toDigits d.coefficient c ?_
  rw [whole]
  exact List.mem_append_left _ hc

/-- What the significant digits spell. -/
def significand (d : Decimal) : Nat := Nat.ofDigitChars 10 d.digits 0

/-- The zeros that the significant digits leave off are a power of ten. -/
theorem coefficient_eq (d : Decimal) :
    ∃ k : Nat, d.coefficient = d.significand * 10 ^ k
      ∧ d.exponent + k = d.point - d.digits.length := by
  obtain ⟨k, whole⟩ := d.toDigits_eq_digits_append
  refine ⟨k, ?_, ?_⟩
  · rw [significand, ← ofDigitChars_append_zeros, ← whole, Nat.ofDigitChars_ten_toDigits]
  · rw [point, whole, List.length_append, zeros, List.length_replicate]
    omega

/-- A coefficient has no significant digits only if it is zero. -/
theorem digits_ne_nil {d : Decimal} (h : d.coefficient ≠ 0) : d.digits ≠ [] := by
  intro none
  obtain ⟨k, coefficient, -⟩ := d.coefficient_eq
  rw [significand, none, Nat.ofDigitChars_nil, Nat.zero_mul] at coefficient
  exact h coefficient

variable {d : Decimal} (nonzero : d.coefficient ≠ 0)

include nonzero

theorem significand_pos : 0 < d.significand := by
  obtain ⟨k, coefficient, -⟩ := d.coefficient_eq
  refine Nat.pos_of_ne_zero fun zero => nonzero ?_
  rw [coefficient, zero, Nat.zero_mul]

/-- The significant digits are those of the significand. -/
theorem digits_eq : d.digits = Nat.toDigits 10 d.significand := by
  obtain ⟨k, whole⟩ := d.toDigits_eq_digits_append
  have value : d.coefficient = d.significand * 10 ^ k := by
    rw [significand, ← ofDigitChars_append_zeros, ← whole, Nat.ofDigitChars_ten_toDigits]
  rw [value, toDigits_mul_ten_pow (significand_pos nonzero)] at whole
  exact (List.append_cancel_right whole).symm

/-- The last significant digit is not zero. -/
theorem significand_mod_ten : d.significand % 10 ≠ 0 := by
  intro multiple
  have positive := significand_pos nonzero
  have written : d.digits.reverse.head? = some '0' := by
    have tens : d.significand = d.significand / 10 * 10 ^ 1 := by omega
    rw [digits_eq nonzero, tens, toDigits_mul_ten_pow (by omega), List.reverse_append]
    rfl
  have stripped := List.head?_dropWhile_not (· = '0') (Nat.toDigits 10 d.coefficient).reverse
  rw [digits, List.reverse_reverse] at written
  rw [written] at stripped
  exact absurd rfl (of_decide_eq_false stripped)

end Decimal

end FeatureGates
