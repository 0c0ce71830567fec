import FeatureGates.Proofs.IntegerNumerals
import FeatureGates.Proofs.NumberText
import FeatureGates.Proofs.Order
import FeatureGates.Value.Coercion

/-!
# Texts of numbers, read by expressions

An expression reads all of a text as a number (`Text.readNumber`), and it
writes numbers in a way of its own (`Number.toText`): whole ones as
integers, unless they are very large, and others as they are stored.

The characters of such a text are few (`Text.numeralChars`). None is a
blank, an underscore or the mark of a radix, so nothing of the text is
taken off, and it is read as a decimal numeral (`Text.readNumber_numeral`).
An integer is read again as itself (`Text.readNumber_writeInt`), and every
number as one at its own place (`Number.position?_readNumber`). So whatever
is written is read as an equal number, NaN as NaN
(`Number.exists_toNumber_toText`).
-/

namespace FeatureGates

/-! Powers of natural numbers are the ones of core. -/

attribute [local instance (2000)] instPowNat

namespace Text

/-! ## Characters of numerals -/

/-- The characters that numbers are written with. -/
def numeralChars : List Char := "0123456789-+.e".toList

theorem mem_numeralChars_of_isDigit {c : Char} (h : c.isDigit = true) : c ∈ numeralChars := by
  obtain ⟨low, high⟩ := Char.isDigit_iff_toNat.1 h
  have low : 48 ≤ c.toNat := low
  have high : c.toNat ≤ 57 := high
  have digits : ∀ k : Fin 10, Char.ofNat (48 + k) ∈ numeralChars := by decide
  have mem := digits ⟨c.toNat - 48, by omega⟩
  have code : 48 + (c.toNat - 48) = c.toNat := by omega
  rwa [code, Char.ofNat_toNat] at mem

/-- A printable character of which no numeral with blanks, underscores or a mark is made. -/
structure IsPlain (c : Char) : Prop where
  printable : IsPrintable c
  notBlank : isBlank c = false
  notSeparator : c ≠ '_'
  notLetter : c ≠ 'I'
  notMark : c.toLower ≠ 'x' ∧ c.toLower ≠ 'o' ∧ c.toLower ≠ 'b'

instance (c : Char) : Decidable (IsPlain c) :=
  decidable_of_iff (IsPrintable c ∧ isBlank c = false ∧ c ≠ '_' ∧ c ≠ 'I' ∧
      c.toLower ≠ 'x' ∧ c.toLower ≠ 'o' ∧ c.toLower ≠ 'b')
    ⟨fun ⟨printable, blank, separator, letter, mark⟩ =>
        ⟨printable, blank, separator, letter, mark⟩,
      fun h => ⟨h.printable, h.notBlank, h.notSeparator, h.notLetter, h.notMark⟩⟩

theorem isPlain_of_mem {c : Char} (h : c ∈ numeralChars) : IsPlain c := by
  have all : numeralChars.all (fun c => decide (IsPlain c)) = true := by decide
  exact of_decide_eq_true (List.all_eq_true.1 all c h)

theorem isPlain_digits {digits : List Char} (hd : AreDigits digits) : ∀ c ∈ digits, IsPlain c :=
  fun c mem => isPlain_of_mem (mem_numeralChars_of_isDigit (hd c mem))

theorem isPlain_sign (sign : Sign) {cs : List Char} (plain : ∀ c ∈ cs, IsPlain c) :
    ∀ c ∈ sign.chars ++ cs, IsPlain c := by
  intro c mem
  rcases List.mem_append.1 mem with own | mem
  · cases sign with
    | bare => cases own
    | plus =>
      rw [List.mem_singleton.1 own]
      exact isPlain_of_mem (by decide)
    | minus =>
      rw [List.mem_singleton.1 own]
      exact isPlain_of_mem (by decide)
  · exact plain c mem

/-! ## Texts of such characters -/

theorem trim_eq_self {p : Char → Bool} {cs : List Char} (h : ∀ c ∈ cs, p c = false) :
    trim p cs = cs := by
  rw [trim_of_getLast? fun c mem => h c (List.mem_of_getLast? mem)]
  exact dropWhile_of_head? fun c mem => h c (List.mem_of_head? mem)

variable {cs : List Char} (plain : ∀ c ∈ cs, IsPlain c)

include plain

theorem getLast?_plain : ∀ c ∈ cs.getLast?, c ≠ ' ' := by
  rintro c mem rfl
  exact absurd (plain ' ' (List.mem_of_getLast? mem)).notBlank (by decide)

theorem infinity?_plain : infinity? cs = none := by
  refine if_neg fun same => ?_
  have same : (signed cs).2 = "Infinity".toList := same
  have letter : 'I' ∈ (signed cs).2 := by
    rw [same]
    decide
  exact (plain 'I' (mem_of_mem_signed letter)).notLetter rfl

theorem radixOf?_plain : radixOf? cs = none := by
  unfold radixOf?
  split
  · rename_i mark rest
    obtain ⟨x, o, b⟩ := (plain mark (List.mem_cons_of_mem _ List.mem_cons_self)).notMark
    split
    · rename_i same
      exact absurd same x
    · rename_i same
      exact absurd same o
    · rename_i same
      exact absurd same b
    · rfl
  · rfl

/-- A text of such characters is a decimal numeral or none, and an integer if it can be. -/
theorem readNumber_numeral (hne : cs ≠ []) {x : Binary64} (read : readDecimal? cs = some x) :
    readNumber (String.ofList cs) = match readInt 10 cs with
      | .ok n => .int n
      | .error _ => .float x := by
  have kept : trim isBlank cs = cs := trim_eq_self fun c mem => (plain c mem).notBlank
  have some_char : cs.isEmpty = false := by
    cases cs with
    | nil => exact absurd rfl hne
    | cons c rest => rfl
  unfold readNumber
  rw [String.toList_ofList]
  cases whole : readInt 10 cs <;>
    simp only [kept, some_char, infinity?_plain plain, radixOf?_plain plain, read, whole,
      Bool.false_eq_true, if_false]

/-- A point or an exponent keeps a decimal numeral from being an integer. -/
theorem readNumber_special {x : Binary64} (read : readDecimal? cs = some x) {c : Char}
    (mem : c ∈ cs) (special : c = '.' ∨ c = 'e' ∨ c = 'E') :
    readNumber (String.ofList cs) = .float x := by
  rw [readNumber_numeral plain (List.ne_nil_of_mem mem) read]
  split
  · rename_i n whole
    obtain ⟨sign, digits, numeral, -⟩ := (readInt_iff (fun d mem => (plain d mem).printable)
      (getLast?_plain plain)).1 whole
    exact absurd numeral (not_isInteger_of_mem mem special sign digits)
  · rfl

omit plain

/-! ## Integers -/

theorem readDecimal?_digits (sign : Sign) {digits : List Char} (hne : digits ≠ [])
    (hd : AreDigits digits) : ∃ x, readDecimal? (sign.chars ++ digits) = some x := by
  have literal := IsDecimal.intro sign hd .none .none (List.append_ne_nil_of_left_ne_nil hne [])
  rw [List.append_nil, List.append_nil] at literal
  exact ⟨_, readDecimal?_of_isDecimal literal⟩

/-- A sign and digits are read as the integer that they spell. -/
theorem readNumber_digits (sign : Sign) {digits : List Char} (hne : digits ≠ [])
    (hd : AreDigits digits) (short : digits.length ≤ digitLimit) :
    readNumber (String.ofList (sign.chars ++ digits)) =
      .int (sign.apply (Nat.ofDigitChars 10 digits 0)) := by
  have plain := isPlain_sign sign (isPlain_digits hd)
  obtain ⟨x, decimal⟩ := readDecimal?_digits sign hne hd
  have whole : readInt 10 (sign.chars ++ digits) =
      .ok (sign.apply (valueOfDigits 10 (values digits))) :=
    (readInt_iff (fun d mem => (plain d mem).printable) (getLast?_plain plain)).2
      ⟨sign, values digits, isInteger_digits sign hne hd, fun _ => by rwa [length_values], rfl⟩
  rw [readNumber_numeral plain (List.append_ne_nil_of_right_ne_nil _ hne) decimal, whole,
    valueOfDigits_values]

/-- An integer is read from its text. -/
theorem readNumber_writeInt {n : Int} {text : String} (h : writeInt n = .ok text) :
    readNumber text = .int n := by
  unfold writeInt at h
  split at h
  · rename_i small
    cases h
    have limit : (Nat.toDigits 10 n.natAbs).length ≤ digitLimit :=
      (Nat.length_toDigits_le_iff (by decide) (by decide)).2 small
    have read := readNumber_digits (.ofNegative (decide (n < 0))) Nat.toDigits_ne_nil
      (areDigits_toDigits n.natAbs) limit
    rw [Sign.chars_ofNegative, ← toList_toString_int, String.ofList_toList,
      Nat.ofDigitChars_ten_toDigits, Sign.apply, Sign.isNegative_ofNegative] at read
    rw [read]
    exact congrArg Number.int (signed_natAbs n)
  · cases h

end Text

/-! ## Floating-point numbers -/

namespace Decimal

open Text

variable {digits : List Char} (hd : AreDigits digits)

include hd

theorem isPlain_positional (point : Int) : ∀ c ∈ positional digits point, IsPlain c := by
  obtain ⟨whole, fraction, eq, -, hw, hf⟩ := positional_eq_point hd point
  intro c mem
  rw [eq] at mem
  rcases List.mem_append.1 mem with before | mem
  · exact isPlain_digits hw c before
  · rcases List.mem_cons.1 mem with rfl | after
    · exact isPlain_of_mem (by decide)
    · exact isPlain_digits hf c after

theorem isPlain_scientific (width : Nat) (point : Int) :
    ∀ c ∈ scientific width digits point, IsPlain c := by
  intro c mem
  unfold scientific at mem
  rcases List.mem_append.1 mem with front | power
  · rcases List.mem_append.1 front with front | exponent
    · rcases List.mem_append.1 front with first | fraction
      · exact isPlain_digits hd c (List.mem_of_mem_take first)
      · split at fraction
        · cases fraction
        · rcases List.mem_cons.1 fraction with rfl | others
          · exact isPlain_of_mem (by decide)
          · exact isPlain_digits hd c (List.mem_of_mem_drop others)
    · rcases List.mem_cons.1 exponent with rfl | exponent
      · exact isPlain_of_mem (by decide)
      · rcases List.mem_cons.1 exponent with rfl | zeros
        · split <;> exact isPlain_of_mem (by decide)
        · exact isPlain_digits (areDigits_zeros _) c zeros
  · exact isPlain_digits (areDigits_toDigits _) c power

end Decimal

namespace Magnitude

open Text

theorem isPlain_text (m : Magnitude) : ∀ c ∈ m.text, IsPlain c := by
  have digits := m.shortest.areDigits_digits
  rcases m.text_cases with positional | ⟨-, -, scientific⟩
  · rw [positional]
    exact Decimal.isPlain_positional digits _
  · rw [scientific]
    exact Decimal.isPlain_scientific digits _ _

/-- The text of a size has a point or an exponent. -/
theorem exists_special (m : Magnitude) : ∃ c ∈ m.text, c = '.' ∨ c = 'e' ∨ c = 'E' := by
  by_cases point : '.' ∈ m.text
  · exact ⟨'.', point, .inl rfl⟩
  · obtain ⟨-, -, c, tail, -, text⟩ := exists_digit_of_text point
    refine ⟨'e', ?_, .inr (.inl rfl)⟩
    rw [text]
    exact List.mem_cons_of_mem _ List.mem_cons_self

end Magnitude

/-- The stored text of a finite number is read as that number. -/
theorem Text.readNumber_written (s : Bool) (m : Magnitude) :
    readNumber (Binary64.finite s m).written = .float (.finite s m) := by
  obtain ⟨numeral, scanned, value⟩ := m.isReadFrom_text s
  rw [m.ofDecimal_shortest s] at value
  have decimal : readDecimal? (signMark s ++ m.text) = some (.finite s m) := by
    rw [readDecimal?, scanned, ← value]
  obtain ⟨c, mem, special⟩ := m.exists_special
  have plain := isPlain_sign (.ofNegative s) m.isPlain_text
  rw [Sign.chars_ofNegative] at plain
  have read := readNumber_special plain decimal (List.mem_append_right _ mem) special
  rw [← Binary64.toList_written, String.ofList_toList] at read
  exact read

namespace Number

attribute [local irreducible] unitsPerOne

/-- A whole number stands where the integer stands that counts it. -/
theorem position?_whole {m : Magnitude} (s : Bool) (whole : m.units % unitsPerOne = 0) :
    position? (.int (if s then -(m.units / unitsPerOne : Int) else m.units / unitsPerOne)) =
      position? (.float (.finite s m)) := by
  have units : (m.units / unitsPerOne : Int) * unitsPerOne = m.units :=
    Int.ediv_mul_cancel (Int.natCast_dvd_natCast.2 (Nat.dvd_of_mod_eq_zero whole))
  show some (Position.at _) = some (Position.at (Binary64.signedUnits s m))
  unfold Binary64.signedUnits
  cases s with
  | true =>
    rw [if_pos rfl, if_pos rfl, Int.neg_mul, units]
  | false =>
    rw [if_neg Bool.false_ne_true, if_neg Bool.false_ne_true, units]

/-- The text of a whole number that is not very large is that of an integer. -/
theorem writeInt_whole {m : Magnitude} (s : Bool)
    (few : m.units < 10 ^ wholeDigits * unitsPerOne) :
    Text.writeInt (if s then -(m.units / unitsPerOne : Int) else m.units / unitsPerOne) =
      .ok (toString (if s then -(m.units / unitsPerOne : Int) else m.units / unitsPerOne)) := by
  have quotient : m.units / unitsPerOne < 10 ^ wholeDigits :=
    Nat.div_lt_of_lt_mul (by rwa [Nat.mul_comm])
  have size : (if s then -(m.units / unitsPerOne : Int) else m.units / unitsPerOne).natAbs =
      m.units / unitsPerOne := by
    rw [← Int.natCast_ediv]
    cases s with
    | true => rw [if_pos rfl, Int.natAbs_neg, Int.natAbs_natCast]
    | false => rw [if_neg Bool.false_ne_true, Int.natAbs_natCast]
  unfold Text.writeInt
  rw [size, if_pos (Nat.lt_of_lt_of_le quotient (Binary64.ten_pow_le (by decide)))]

/-- The text of a number is read as a number at its place. -/
theorem position?_readNumber {n : Number} {text : String} (h : n.toText = .ok text) :
    (Text.readNumber text).position? = n.position? := by
  unfold toText at h
  split at h
  · rw [Text.readNumber_writeInt h]
  · cases h
    decide +kernel
  · rename_i negative
    cases h
    cases negative <;> decide +kernel
  · rename_i s m
    split at h
    · rename_i whole
      cases h
      rw [Text.readNumber_writeInt (writeInt_whole s whole.2), position?_whole s whole.1]
    · cases h
      rw [Text.readNumber_written]

theorem isNaN_eq (n : Number) : n.isNaN = n.position?.isNone := by
  cases n with
  | int k => rfl
  | float x => cases x <;> rfl

/-- Only integers are ever too long to write. -/
theorem exists_toText {n : Number}
    (short : ∀ k, n = .int k → k.natAbs < 10 ^ Text.digitLimit) : ∃ text, n.toText = .ok text := by
  unfold toText
  split
  · rename_i k
    exact ⟨_, if_pos (short k rfl)⟩
  · exact ⟨_, rfl⟩
  · exact ⟨_, rfl⟩
  · split <;> exact ⟨_, rfl⟩

/-- A number that is not too long to write is read again from its text as a
strictly equal one, and NaN as NaN. -/
theorem exists_toNumber_toText {n : Number}
    (short : ∀ k, n = .int k → k.natAbs < 10 ^ Text.digitLimit) :
    ∃ text back, (Value.number n).toText = .ok text ∧
      (Value.text text).toNumber = .ok back ∧
        (Operand.fresh (.number back)).strictEquals (.fresh (.number n)) = !n.isNaN ∧
          back.isNaN = n.isNaN := by
  obtain ⟨text, written⟩ := exists_toText short
  have place := position?_readNumber written
  refine ⟨text, Text.readNumber text, ?_, rfl, ?_, ?_⟩
  · rw [Value.toText, written]
  · have own : (Text.readNumber text).eq n = n.eq n := by
      unfold Number.eq
      rw [place]
    show (Text.readNumber text).eq n = _
    rw [own]
    cases nan : n.isNaN with
    | false => exact n.eq_self_iff.2 nan
    | true =>
      refine Bool.eq_false_iff.2 fun equal => ?_
      rw [n.eq_self_iff, nan] at equal
      cases equal
  · rw [isNaN_eq, isNaN_eq, place]

/-- The largest integer that is written. -/
def nines : Nat := 10 ^ Text.digitLimit - 1

theorem exists_toNumber_toText_nines :
    (∀ k, int nines = .int k → k.natAbs < 10 ^ Text.digitLimit) ∧
      ∃ text back, (Value.number (int nines)).toText = .ok text ∧
        (Value.text text).toNumber = .ok back ∧
          (Operand.fresh (.number back)).strictEquals (.fresh (.number (int nines))) =
              !(int nines).isNaN ∧
            back.isNaN = (int nines).isNaN := by
  have short : ∀ k, int nines = .int k → k.natAbs < 10 ^ Text.digitLimit := by
    rintro k ⟨⟩
    rw [Int.natAbs_natCast]
    exact Nat.sub_lt (Binary64.ten_pow_pos _) (by decide)
  exact ⟨short, exists_toNumber_toText short⟩

end Number

end FeatureGates
