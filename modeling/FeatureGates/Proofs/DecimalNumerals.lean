import FeatureGates.Proofs.Decimal
import FeatureGates.Proofs.Digits

/-!
# Decimal numerals

The signs and the decimal numerals that are read, said without reading:
`IsDecimal` builds a numeral up from a sign, digits, a fraction and an
exponent. On ASCII it is what `DecimalNumeral.scan?` reads to the end, no
more and no less (`DecimalNumeral.scan?_of_isDecimal`,
`DecimalNumeral.isDecimal_of_scan?`).
-/

namespace FeatureGates

/-! Powers of natural numbers are the ones of core. -/

attribute [local instance (2000)] instPowNat

namespace Text

/-! ## Signs -/

/-- The mark of a sign. -/
def signMark (negative : Bool) : List Char := if negative then ['-'] else []

/-- A character that is neither a sign nor a blank. -/
def startsNumeral (c : Char) : Bool := c ≠ '-' && c ≠ '+' && !isBlank c

theorem startsNumeral_of_digitValue? {c : Char} {digit : Nat} (h : digitValue? c = some digit) :
    startsNumeral c = true := by
  obtain ⟨start, mem, within⟩ := exists_digitZero h
  -- no run of digits holds a sign or a blank
  have clear : digitZeros.all (fun start => decide (0x30 ≤ start ∧
      (start + 10 ≤ 0x85 ∨ 0xA0 < start) ∧ (start + 10 ≤ 0x1680 ∨ 0x1680 < start) ∧
      (start + 10 ≤ 0x2000 ∨ 0x205F < start) ∧ (start + 10 ≤ 0x3000 ∨ 0x3000 < start))) = true := by
    decide
  have clear := of_decide_eq_true (List.all_eq_true.1 clear start mem)
  have minus : c ≠ '-' := by
    rintro rfl
    have : 45 = '-'.toNat := rfl
    omega
  have plus : c ≠ '+' := by
    rintro rfl
    have : 43 = '+'.toNat := rfl
    omega
  have solid : isBlank c = false := by
    simp only [isBlank, Bool.or_eq_false_iff, Bool.and_eq_false_iff, decide_eq_false_iff_not,
      beq_eq_false_iff_ne]
    omega
  simp [startsNumeral, minus, plus, solid]

theorem startsNumeral_of_isDigit {c : Char} (h : c.isDigit = true) : startsNumeral c = true :=
  startsNumeral_of_digitValue? (digitValue?_of_isDigit h)

/-- How the sign of a numeral is written. -/
inductive Sign where
  | bare
  | plus
  | minus

namespace Sign

def chars : Sign → List Char
  | bare => []
  | plus => ['+']
  | minus => ['-']

def isNegative : Sign → Bool
  | bare => false
  | plus => false
  | minus => true

/-- The integer of this sign and size. -/
def apply (sign : Sign) (n : Nat) : Int := if sign.isNegative then -n else n

/-- The sign that numbers are written with. -/
def ofNegative (negative : Bool) : Sign := if negative then minus else bare

theorem chars_ofNegative (negative : Bool) : (ofNegative negative).chars = signMark negative := by
  cases negative <;> rfl

theorem isNegative_ofNegative (negative : Bool) : (ofNegative negative).isNegative = negative := by
  cases negative <;> rfl

end Sign

theorem signed_chars (sign : Sign) {c : Char} (cs : List Char) (starts : startsNumeral c = true) :
    signed (sign.chars ++ c :: cs) = (sign.isNegative, c :: cs) := by
  simp only [startsNumeral, Bool.and_eq_true, decide_eq_true_eq] at starts
  cases sign with
  | bare =>
    show signed (c :: cs) = _
    unfold signed
    split
    · rename_i eq
      exact absurd (List.cons.inj eq).1 starts.1.1
    · rename_i eq
      exact absurd (List.cons.inj eq).1 starts.1.2
    · rfl
  | plus => rfl
  | minus => rfl

theorem signed_signMark (negative : Bool) {c : Char} (cs : List Char)
    (h : startsNumeral c = true) : signed (signMark negative ++ c :: cs) = (negative, c :: cs) := by
  have read := signed_chars (.ofNegative negative) cs h
  rwa [Sign.chars_ofNegative, Sign.isNegative_ofNegative] at read

/-- Nothing of a numeral counts as white space before it. -/
theorem dropBlanks_signMark (negative : Bool) {c : Char} (cs : List Char)
    (h : startsNumeral c = true) :
    (signMark negative ++ c :: cs).dropWhile isBlank = signMark negative ++ c :: cs := by
  simp only [startsNumeral, Bool.and_eq_true, Bool.not_eq_true'] at h
  cases negative with
  | true => rfl
  | false => exact List.dropWhile_cons_of_neg (by simp [h.2])

/-- Neither the sign nor what starts behind it is a blank. -/
theorem notAsciiBlank_head? (sign : Sign) {c : Char} (cs : List Char)
    (starts : startsNumeral c = true) :
    ∀ d ∈ (sign.chars ++ c :: cs).head?, isAsciiBlank d = false := by
  intro d mem
  cases sign with
  | bare =>
    cases mem
    simp only [startsNumeral, Bool.and_eq_true, Bool.not_eq_true'] at starts
    exact Bool.eq_false_iff.2 fun blank =>
      absurd (isBlank_of_isAsciiBlank blank) (Bool.eq_false_iff.1 starts.2)
  | plus =>
    cases mem
    decide
  | minus =>
    cases mem
    decide

theorem exists_sign (cs : List Char) :
    ∃ sign : Sign, cs = sign.chars ++ (signed cs).2 ∧ (signed cs).1 = sign.isNegative := by
  unfold signed
  split
  · exact ⟨.minus, rfl, rfl⟩
  · exact ⟨.plus, rfl, rfl⟩
  · exact ⟨.bare, rfl, rfl⟩

theorem mem_of_mem_signed {c : Char} {cs : List Char} (h : c ∈ (signed cs).2) : c ∈ cs := by
  unfold signed at h
  split at h
  · exact List.mem_cons_of_mem _ h
  · exact List.mem_cons_of_mem _ h
  · exact h

/-! ## Decimal literals -/

theorem digitValue?_point : digitValue? '.' = none := by decide +kernel

theorem digitValue?_e : digitValue? 'e' = none := by decide +kernel

/-- A point and the digits after it, or nothing. -/
inductive Fraction : List Char → List Char → Prop
  | none : Fraction [] []
  | point {digits : List Char} (hd : AreDigits digits) : Fraction ('.' :: digits) digits

/-- An exponent, or nothing. -/
inductive Exponent : List Char → Int → Prop
  | none : Exponent [] 0
  | power {letter : Char} (hl : letter = 'e' ∨ letter = 'E') (sign : Sign) {digits : List Char}
      (some_digit : digits ≠ []) (hd : AreDigits digits) :
      Exponent (letter :: (sign.chars ++ digits)) (sign.apply (Nat.ofDigitChars 10 digits 0))

/-- A decimal literal: a sign and digits, with a fraction or without, or a fraction alone; and an
exponent or none. -/
inductive IsDecimal : List Char → DecimalNumeral → Prop
  | intro (sign : Sign) {whole point fraction power : List Char} {exponent : Int}
      (hw : AreDigits whole) (hf : Fraction point fraction) (he : Exponent power exponent)
      (some_digit : whole ++ fraction ≠ []) :
      IsDecimal (sign.chars ++ (whole ++ (point ++ power)))
        ⟨sign.isNegative, values whole, values fraction, exponent⟩

namespace DecimalNumeral

/-- The digits behind a point, and what follows. -/
def afterPoint : List Char → List Nat × List Char
  | '.' :: rest => takeDigits rest
  | rest => ([], rest)

/-- A scan, with its parts by name. -/
theorem scan?_eq (cs : List Char) :
    scan? cs =
      let whole := takeDigits (signed cs).2
      let fraction := afterPoint whole.2
      if whole.1.isEmpty && fraction.1.isEmpty then none
      else some (⟨(signed cs).1, whole.1, fraction.1, (scanExponent fraction.2).1⟩,
        (scanExponent fraction.2).2) := rfl

/-! ### Decimal literals are read -/

theorem stops_fraction {point fraction power : List Char} {exponent : Int}
    (hf : Fraction point fraction) (he : Exponent power exponent) : Stops (point ++ power) := by
  cases hf with
  | none =>
    cases he with
    | none => exact stops_nil
    | power hl => exact stops_cons (by rcases hl with rfl | rfl <;> decide +kernel)
  | point => exact stops_cons digitValue?_point

theorem stops_exponent {power : List Char} {exponent : Int} (he : Exponent power exponent) :
    Stops power := stops_fraction .none he

theorem afterPoint_append {point fraction power : List Char} {exponent : Int}
    (hf : Fraction point fraction) (he : Exponent power exponent) :
    afterPoint (point ++ power) = (values fraction, power) := by
  cases hf with
  | none =>
    cases he with
    | none => rfl
    | power hl => rcases hl with rfl | rfl <;> rfl
  | point hd => exact takeDigits_append hd (stops_exponent he)

theorem scanExponent_of_exponent {cs : List Char} {exponent : Int} (he : Exponent cs exponent) :
    scanExponent cs = (exponent, []) := by
  cases he with
  | none => rfl
  | power hl sign some_digit hd =>
    obtain ⟨c, rest, rfl⟩ := List.exists_cons_of_ne_nil some_digit
    have front := signed_chars sign rest (startsNumeral_of_isDigit (hd c List.mem_cons_self))
    have found : values (c :: rest) ≠ [] := List.cons_ne_nil _ _
    simp only [scanExponent, if_pos hl, front, takeDigits_digits hd]
    rw [valueOfDigits_values]
    rfl

/-- A decimal literal is scanned to its end. -/
theorem scan?_of_isDecimal {cs : List Char} {d : DecimalNumeral} (h : IsDecimal cs d) :
    scan? cs = some (d, []) := by
  obtain ⟨sign, hw, hf, he, some_digit⟩ := h
  rename_i whole point fraction power exponent
  -- a digit or a point comes first, so that no more than the sign is taken off
  have starts : ∃ c rest, whole ++ (point ++ power) = c :: rest ∧ startsNumeral c = true := by
    cases whole with
    | cons c rest => exact ⟨c, _, rfl, startsNumeral_of_isDigit (hw c List.mem_cons_self)⟩
    | nil =>
      cases hf with
      | none => exact absurd rfl some_digit
      | point => exact ⟨'.', _, rfl, by decide⟩
  obtain ⟨c, rest, eq, first⟩ := starts
  have front := signed_chars sign rest first
  rw [← eq] at front
  have digits : ((values whole).isEmpty && (values fraction).isEmpty) = false := by
    cases whole with
    | cons c rest => rfl
    | nil =>
      obtain ⟨c, rest, rfl⟩ := List.exists_cons_of_ne_nil some_digit
      rfl
  rw [scan?_eq, front]
  simp only [takeDigits_append hw (stops_fraction hf he), afterPoint_append hf he, digits,
    scanExponent_of_exponent he]
  rfl

/-! ### What is read is a decimal literal -/

theorem exists_fraction {cs : List Char} (ascii : ∀ c ∈ cs, c.toNat < 0x7F) :
    ∃ point fraction, Fraction point fraction ∧ values fraction = (afterPoint cs).1 ∧
      cs = point ++ (afterPoint cs).2 := by
  unfold afterPoint
  split
  · rename_i rest
    obtain ⟨digits, hd, eq, whole⟩ :=
      exists_takeDigits fun c mem => ascii c (List.mem_cons_of_mem '.' mem)
    exact ⟨_, digits, .point hd, eq, congrArg ('.' :: ·) whole⟩
  · exact ⟨[], [], .none, rfl, rfl⟩

theorem exponent_of_scanExponent {cs : List Char} (ascii : ∀ c ∈ cs, c.toNat < 0x7F)
    {exponent : Int} (h : scanExponent cs = (exponent, [])) : Exponent cs exponent := by
  unfold scanExponent at h
  split at h
  · rename_i letter rest
    split at h
    · rename_i hl
      obtain ⟨sign, marked, negative⟩ := exists_sign rest
      have behind : ∀ c ∈ (signed rest).2, c.toNat < 0x7F := fun c mem =>
        ascii c (List.mem_cons_of_mem letter (mem_of_mem_signed mem))
      obtain ⟨digits, hd, taken, whole⟩ := exists_takeDigits behind
      dsimp only at h
      split at h
      · cases h
      · rename_i found after some_digit own
        obtain ⟨rfl, rfl⟩ := Prod.mk.inj h
        rw [own] at taken whole
        have all : rest = sign.chars ++ digits := by
          rw [marked, whole]
          exact congrArg (sign.chars ++ ·) (List.append_nil digits)
        have found_digits : values digits = found := taken
        rw [negative, ← found_digits, valueOfDigits_values, all]
        refine .power hl sign ?_ hd
        rintro rfl
        exact some_digit found_digits.symm
    · cases h
  · cases h
    exact .none

/-- A text that is scanned to its end is a decimal literal. -/
theorem isDecimal_of_scan? {cs : List Char} (ascii : ∀ c ∈ cs, c.toNat < 0x7F) {d : DecimalNumeral}
    (h : scan? cs = some (d, [])) : IsDecimal cs d := by
  obtain ⟨sign, marked, negative⟩ := exists_sign cs
  obtain ⟨whole, hw, wholeValues, front⟩ :=
    exists_takeDigits fun c mem => ascii c (mem_of_mem_signed mem)
  have behindWhole : ∀ c ∈ (takeDigits (signed cs).2).2, c ∈ (signed cs).2 := by
    intro c mem
    rw [front]
    exact List.mem_append_right whole mem
  obtain ⟨point, fraction, hf, fractionValues, middle⟩ :=
    exists_fraction fun c mem => ascii c (mem_of_mem_signed (behindWhole c mem))
  have behindFraction : ∀ c ∈ (afterPoint (takeDigits (signed cs).2).2).2,
      c ∈ (takeDigits (signed cs).2).2 := by
    intro c mem
    rw [middle]
    exact List.mem_append_right point mem
  rw [scan?_eq] at h
  dsimp only at h
  split at h
  · cases h
  · rename_i some_digit
    obtain ⟨same, all⟩ := Prod.mk.inj (Option.some.inj h)
    have he := exponent_of_scanExponent (fun c mem => ascii c (mem_of_mem_signed
      (behindWhole c (behindFraction c mem)))) (Prod.ext rfl all)
    have text : cs = sign.chars ++
        (whole ++ (point ++ (afterPoint (takeDigits (signed cs).2).2).2)) := by
      rw [← middle, ← front, ← marked]
    have digits : whole ++ fraction ≠ [] := by
      intro none
      obtain ⟨rfl, rfl⟩ := List.append_eq_nil_iff.1 none
      rw [← wholeValues, ← fractionValues] at some_digit
      exact some_digit rfl
    have literal := IsDecimal.intro sign hw hf he digits
    rwa [← text, wholeValues, fractionValues, ← negative, same] at literal

theorem toBinary64_values (negative : Bool) (whole fraction : List Char) (exponent : Int) :
    toBinary64 ⟨negative, values whole, values fraction, exponent⟩ =
      .ofDecimal negative (Nat.ofDigitChars 10 (whole ++ fraction) 0)
        (exponent - fraction.length) := by
  rw [toBinary64, ← values_append, valueOfDigits_values, length_values]

end DecimalNumeral

theorem readDecimal?_of_isDecimal {cs : List Char} {d : DecimalNumeral} (h : IsDecimal cs d) :
    readDecimal? cs = some d.toBinary64 := by
  rw [readDecimal?, DecimalNumeral.scan?_of_isDecimal h]

theorem exists_isDecimal_of_readDecimal? {cs : List Char} (ascii : ∀ c ∈ cs, c.toNat < 0x7F)
    {x : Binary64} (h : readDecimal? cs = some x) : ∃ d, IsDecimal cs d := by
  unfold readDecimal? at h
  split at h
  · rename_i scanned
    exact ⟨_, DecimalNumeral.isDecimal_of_scan? ascii scanned⟩
  · cases h

end Text

end FeatureGates
