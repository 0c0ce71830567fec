import FeatureGates.Proofs.TextReading

/-!
# Numeric literals

Which texts are read as numbers. `Denotes` is the grammar of numeric
literals: nothing at all, a signed `Infinity`, a decimal literal, or the
mark of a radix and digits of that radix. Every literal is read as the
number that it denotes (`Text.readNumber_of_denotes`).

It is not all that is read. Behind the mark of a radix there may stand any
integer numeral of that radix: with blanks before it, a sign, underscores,
or the same mark once more. These texts are no literals
(`Text.DenotesLoosely`), and with them the grammar is complete
(`Text.toNumber_iff_denotes`).
-/

namespace FeatureGates

namespace Text

/-! ## Characters of decimal literals -/

theorem IsDecimal.isPlain {cs : List Char} {d : DecimalNumeral} (h : IsDecimal cs d) :
    ∀ c ∈ cs, IsPlain c := by
  obtain ⟨sign, hw, hf, he, -⟩ := h
  refine isPlain_sign sign fun c mem => ?_
  rcases List.mem_append.1 mem with mem | mem
  · exact isPlain_digits hw c mem
  · rcases List.mem_append.1 mem with mem | mem
    · cases hf with
      | none => cases mem
      | point hd =>
        rcases List.mem_cons.1 mem with rfl | mem
        · decide
        · exact isPlain_digits hd c mem
    · cases he with
      | none => cases mem
      | power hl own some_digit hd =>
        rcases List.mem_cons.1 mem with rfl | mem
        · rcases hl with rfl | rfl <;> decide
        · exact isPlain_sign own (isPlain_digits hd) c mem

/-- A fraction begins with a point and an exponent with its letter. -/
theorem exists_special {point fraction power : List Char} {exponent : Int}
    (hf : Fraction point fraction) (he : Exponent power exponent)
    (some_char : point ++ power ≠ []) :
    ∃ c ∈ point ++ power, c = '.' ∨ c = 'e' ∨ c = 'E' := by
  cases hf with
  | none =>
    cases he with
    | none => exact absurd rfl some_char
    | power hl => exact ⟨_, List.mem_cons_self, .inr hl⟩
  | point => exact ⟨'.', List.mem_cons_self, .inl rfl⟩

/-! ## Literals -/

/-- The numeric literals without blanks around them, and the numbers that they denote. -/
inductive Denotes : List Char → Number → Prop
  | empty : Denotes [] (.int 0)
  | infinity (sign : Sign) :
      Denotes (sign.chars ++ "Infinity".toList) (.float (.infinite sign.isNegative))
  | integer (sign : Sign) {digits : List Char} (some_digit : digits ≠ []) (hd : AreDigits digits) :
      Denotes (sign.chars ++ digits) (.int (sign.apply (Nat.ofDigitChars 10 digits 0)))
  | decimal (sign : Sign) {whole point fraction power : List Char} {exponent : Int}
      (hw : AreDigits whole) (hf : Fraction point fraction) (he : Exponent power exponent)
      (some_digit : whole ++ fraction ≠ []) (special : point ++ power ≠ []) :
      Denotes (sign.chars ++ (whole ++ (point ++ power)))
        (.float (.ofDecimal sign.isNegative (Nat.ofDigitChars 10 (whole ++ fraction) 0)
          (exponent - fraction.length)))
  | marked {radix : Nat} {mark : Char} {cs : List Char} {digits : List Nat}
      (own : radixMark radix = some mark.toLower) (some_digit : cs ≠ [])
      (hd : cs.mapM (radixDigit? radix) = some digits) :
      Denotes ('0' :: mark :: cs) (.int (valueOfDigits radix digits))

/-- The texts that are no literals and yet read as numbers: behind the mark of a radix, an integer
numeral of that radix that is not made of digits alone. -/
inductive DenotesLoosely : List Char → Number → Prop
  | intro {radix : Nat} {mark : Char} {cs : List Char} {sign : Sign} {digits : List Nat}
      (own : radixMark radix = some mark.toLower) (numeral : IsInteger radix cs sign digits)
      (loose : cs.mapM (radixDigit? radix) = none) :
      DenotesLoosely ('0' :: mark :: cs) (.int (sign.apply (valueOfDigits radix digits)))

/-- Every decimal literal denotes a number. -/
theorem IsDecimal.exists_denotes {cs : List Char} {d : DecimalNumeral} (h : IsDecimal cs d) :
    ∃ n, Denotes cs n := by
  obtain ⟨sign, hw, hf, he, some_digit⟩ := h
  rename_i whole point fraction power exponent
  by_cases special : point ++ power = []
  · obtain ⟨rfl, rfl⟩ := List.append_eq_nil_iff.1 special
    cases hf
    rw [List.append_nil] at some_digit
    rw [List.append_nil, List.append_nil]
    exact ⟨_, .integer sign some_digit hw⟩
  · exact ⟨_, .decimal sign hw hf he some_digit special⟩

/-! ## Spaces at the ends -/

theorem head?_dropWhile (p : Char → Bool) (cs : List Char) :
    ∀ c ∈ (cs.dropWhile p).head?, p c = false := by
  intro c mem
  have first := List.head?_dropWhile_not p cs
  rw [mem] at first
  exact first

theorem dropWhile_congr {p q : Char → Bool} {cs : List Char} (h : ∀ c ∈ cs, p c = q c) :
    cs.dropWhile p = cs.dropWhile q := by
  induction cs with
  | nil => rfl
  | cons c rest ih =>
    rw [List.dropWhile_cons, List.dropWhile_cons, h c List.mem_cons_self,
      ih fun d mem => h d (List.mem_cons_of_mem c mem)]

theorem trim_congr {p q : Char → Bool} {cs : List Char} (h : ∀ c ∈ cs, p c = q c) :
    trim p cs = trim q cs := by
  have inner : ∀ c ∈ (cs.dropWhile q).reverse, p c = q c := fun c mem =>
    h c ((List.dropWhile_suffix q).subset (List.mem_reverse.1 mem))
  rw [trim, trim, dropWhile_congr h, dropWhile_congr inner]

/-- What is trimmed is a part of the text, and at its two ends is nothing more to trim. -/
theorem trim_spec (p : Char → Bool) (cs : List Char) :
    (trim p cs).Sublist cs ∧ (∀ c ∈ (trim p cs).head?, p c = false) ∧
      ∀ c ∈ (trim p cs).getLast?, p c = false := by
  have front : ((cs.dropWhile p).reverse.dropWhile p).reverse <+: cs.dropWhile p := by
    have suffix := List.dropWhile_suffix (l := (cs.dropWhile p).reverse) p
    rwa [← List.reverse_prefix, List.reverse_reverse] at suffix
  refine ⟨front.sublist.trans (List.dropWhile_suffix p).sublist, ?_, ?_⟩
  · intro c mem
    obtain ⟨rest, eq⟩ := front
    refine head?_dropWhile p cs c ?_
    rw [trim] at mem
    rw [← eq, List.head?_append, mem]
    rfl
  · intro c mem
    rw [trim, List.getLast?_reverse] at mem
    exact head?_dropWhile p _ c mem

/-- A text of printable ASCII without spaces at its ends. -/
structure IsTrimmed (cs : List Char) : Prop where
  printable : ∀ c ∈ cs, IsPrintable c
  starts : ∀ c ∈ cs.head?, c ≠ ' '
  ends : ∀ c ∈ cs.getLast?, c ≠ ' '

theorem IsTrimmed.printable_tail {a b : Char} {cs : List Char} (h : IsTrimmed (a :: b :: cs)) :
    ∀ c ∈ cs, IsPrintable c := fun c mem =>
  h.printable c (List.mem_cons_of_mem _ (List.mem_cons_of_mem _ mem))

theorem IsTrimmed.ends_tail {a b : Char} {cs : List Char} (h : IsTrimmed (a :: b :: cs)) :
    ∀ c ∈ cs.getLast?, c ≠ ' ' := by
  intro c mem
  refine h.ends c ?_
  rw [List.getLast?_cons, List.getLast?_cons, mem]
  rfl

theorem IsTrimmed.trim_eq {cs : List Char} (h : IsTrimmed cs) : trim isBlank cs = cs := by
  have solid {c : Char} (mem : c ∈ cs) (other : c ≠ ' ') : isBlank c = false :=
    (isBlank_of_printable (h.printable c mem)).1.trans (decide_eq_false other)
  rw [trim_of_getLast? fun c mem => solid (List.mem_of_getLast? mem) (h.ends c mem)]
  exact dropWhile_of_head? fun c mem => solid (List.mem_of_head? mem) (h.starts c mem)

/-- The text without the spaces at its ends. -/
def unspaced (s : String) : List Char := trim (· = ' ') s.toList

theorem isTrimmed_unspaced {s : String} (printable : ∀ c ∈ s.toList, IsPrintable c) :
    IsTrimmed (unspaced s) := by
  obtain ⟨part, starts, ends⟩ := trim_spec (· = ' ') s.toList
  exact ⟨fun c mem => printable c (part.subset mem),
    fun c mem => of_decide_eq_false (starts c mem),
    fun c mem => of_decide_eq_false (ends c mem)⟩

/-! ## What is read -/

/-- How a text without blanks at its ends is read. -/
theorem readNumber_ofList {cs : List Char} (kept : trim isBlank cs = cs) :
    readNumber (String.ofList cs) =
      if cs.isEmpty then .int 0
      else match infinity? cs with
        | some negative => .float (.infinite negative)
        | none => match radixOf? cs with
          | some radix => match readInt radix (cs.drop 2) with
            | .ok n => .int n
            | .error _ => .float .nan
          | none => match readDecimal? cs with
            | none => .float .nan
            | some x => match readInt 10 cs with
              | .ok n => .int n
              | .error _ => .float x := by
  have text : trim isBlank (String.ofList cs).toList = cs := by rw [String.toList_ofList, kept]
  unfold readNumber
  generalize trim isBlank (String.ofList cs).toList = trimmed at text
  subst text
  rfl

theorem radixOf?_marked {radix : Nat} {mark : Char} (own : radixMark radix = some mark.toLower)
    (cs : List Char) : radixOf? ('0' :: mark :: cs) = some radix := by
  rcases radixMark_cases own with ⟨rfl, letter⟩ | ⟨rfl, letter⟩ | ⟨rfl, letter⟩ <;>
    simp only [radixOf?, letter]

theorem exists_mark_of_radixOf? {cs : List Char} {radix : Nat} (h : radixOf? cs = some radix) :
    ∃ mark rest, cs = '0' :: mark :: rest ∧ radixMark radix = some mark.toLower := by
  unfold radixOf? at h
  split at h
  · rename_i mark rest
    refine ⟨mark, rest, rfl, ?_⟩
    split at h
    · rename_i letter
      cases h
      rw [letter, radixMark]
    · rename_i letter
      cases h
      rw [letter, radixMark]
    · rename_i letter
      cases h
      rw [letter, radixMark]
    · cases h
  · cases h

theorem exists_sign_of_infinity? {cs : List Char} {negative : Bool}
    (h : infinity? cs = some negative) : ∃ sign : Sign, cs = sign.chars ++ "Infinity".toList := by
  unfold infinity? at h
  dsimp only at h
  split at h
  · rename_i unsigned
    obtain ⟨sign, marked, -⟩ := exists_sign cs
    rw [unsigned] at marked
    exact ⟨sign, marked⟩
  · cases h

theorem zero_cons_ne_infinity (sign : Sign) (cs : List Char) :
    '0' :: cs ≠ sign.chars ++ "Infinity".toList := by
  intro same
  have first : some '0' = (sign.chars ++ "Infinity".toList).head? := congrArg List.head? same
  cases sign <;> exact absurd first (by decide)

/-- Behind the mark of a radix, an integer numeral of that radix is read. -/
theorem readNumber_marked {radix : Nat} {mark : Char} {cs : List Char} {sign : Sign}
    {digits : List Nat} (trimmed : IsTrimmed ('0' :: mark :: cs))
    (own : radixMark radix = some mark.toLower) (numeral : IsInteger radix cs sign digits) :
    readNumber (String.ofList ('0' :: mark :: cs)) =
      .int (sign.apply (valueOfDigits radix digits)) := by
  have other : radix ≠ 10 := by
    rcases radixMark_cases own with ⟨rfl, -⟩ | ⟨rfl, -⟩ | ⟨rfl, -⟩ <;> decide
  have read := (readInt_iff trimmed.printable_tail trimmed.ends_tail).2
    ⟨sign, digits, numeral, fun ten => absurd ten other, rfl⟩
  have finite : infinity? ('0' :: mark :: cs) = none := by
    cases found : infinity? ('0' :: mark :: cs) with
    | none => rfl
    | some negative =>
      obtain ⟨sign, eq⟩ := exists_sign_of_infinity? found
      exact absurd eq (zero_cons_ne_infinity sign _)
  rw [readNumber_ofList trimmed.trim_eq, radixOf?_marked own]
  simp only [finite, List.drop_succ_cons, List.drop_zero, read]
  rfl

/-- A literal is read as the number that it denotes. -/
theorem readNumber_of_denotes {cs : List Char} (trimmed : IsTrimmed cs)
    (short : cs.length ≤ digitLimit) {n : Number} (h : Denotes cs n) :
    readNumber (String.ofList cs) = n := by
  cases h with
  | empty => rfl
  | infinity sign => cases sign <;> rfl
  | integer sign some_digit hd =>
    refine readNumber_digits sign some_digit hd ?_
    rw [List.length_append] at short
    omega
  | decimal sign hw hf he some_digit special =>
    have literal := IsDecimal.intro sign hw hf he some_digit
    obtain ⟨c, mem, marks⟩ := exists_special hf he special
    have read := readDecimal?_of_isDecimal literal
    rw [DecimalNumeral.toBinary64_values] at read
    exact readNumber_special literal.isPlain read
      (List.mem_append_right _ (List.mem_append_right _ mem)) marks
  | marked own some_digit hd =>
    exact readNumber_marked trimmed own (.intro 0 .bare .none (.of_mapM some_digit hd))

theorem readNumber_of_denotesLoosely {cs : List Char} (trimmed : IsTrimmed cs) {n : Number}
    (h : DenotesLoosely cs n) : readNumber (String.ofList cs) = n := by
  obtain ⟨own, numeral, -⟩ := h
  exact readNumber_marked trimmed own numeral

/-- A text that is read as a number is a literal, or one of the others. -/
theorem exists_denotes {cs : List Char} (trimmed : IsTrimmed cs)
    (number : (readNumber (String.ofList cs)).isNaN = false) :
    (∃ n, Denotes cs n) ∨ ∃ n, DenotesLoosely cs n := by
  rw [readNumber_ofList trimmed.trim_eq] at number
  -- a case for each form that is tried, in the order in which they are tried
  split at number
  · rename_i none
    rw [List.isEmpty_iff.1 none]
    exact .inl ⟨_, .empty⟩
  · split at number
    · rename_i negative infinite
      obtain ⟨sign, rfl⟩ := exists_sign_of_infinity? infinite
      exact .inl ⟨_, .infinity sign⟩
    · split at number
      · rename_i radix found
        obtain ⟨mark, rest, rfl, own⟩ := exists_mark_of_radixOf? found
        split at number
        · rename_i n read
          obtain ⟨sign, digits, numeral, -, -⟩ :=
            (readInt_iff trimmed.printable_tail trimmed.ends_tail).1 read
          -- digits alone are a literal, and only they are
          cases plain : rest.mapM (radixDigit? radix) with
          | none => exact .inr ⟨_, .intro own numeral plain⟩
          | some alone => exact .inl ⟨_, .marked own numeral.ne_nil plain⟩
        · cases number
      · split at number
        · cases number
        · rename_i x decimal
          obtain ⟨d, literal⟩ := exists_isDecimal_of_readDecimal?
            (fun c mem => (trimmed.printable c mem).2) decimal
          exact .inl literal.exists_denotes

/-- The spaces at the ends of a text are not read. -/
theorem readNumber_unspaced {s : String} (printable : ∀ c ∈ s.toList, IsPrintable c) :
    readNumber s = readNumber (String.ofList (unspaced s)) := by
  have spaces : trim isBlank s.toList = unspaced s :=
    trim_congr fun c mem => (isBlank_of_printable (printable c mem)).1
  unfold readNumber
  rw [String.toList_ofList, (isTrimmed_unspaced printable).trim_eq, spaces]

theorem Denotes.isNaN {cs : List Char} {n : Number} (h : Denotes cs n) : n.isNaN = false := by
  cases h with
  | empty => rfl
  | infinity => rfl
  | integer => rfl
  | decimal => exact Binary64.isNaN_ofDecimal _ _ _
  | marked => rfl

theorem DenotesLoosely.isNaN {cs : List Char} {n : Number} (h : DenotesLoosely cs n) :
    n.isNaN = false := by
  cases h
  rfl

/-- No text is a literal and one of the others at once. -/
theorem DenotesLoosely.not_denotes {cs : List Char} {n : Number} (h : DenotesLoosely cs n)
    (k : Number) : ¬Denotes cs k := by
  obtain ⟨own, numeral, loose⟩ := h
  rename_i radix mark rest sign digits
  -- of the literals, only one with a mark itself has this beginning
  have found := radixOf?_marked own rest
  intro literal
  generalize text : '0' :: mark :: rest = cs at literal found
  cases literal with
  | empty => cases text
  | infinity sign => exact zero_cons_ne_infinity sign _ text
  | integer sign some_digit hd =>
    rw [radixOf?_plain (isPlain_sign sign (isPlain_digits hd))] at found
    cases found
  | decimal sign hw hf he some_digit special =>
    rw [radixOf?_plain (IsDecimal.intro sign hw hf he some_digit).isPlain] at found
    cases found
  | marked other some_digit hd =>
    cases text
    rw [radixOf?_marked other] at found
    cases found
    rw [loose] at hd
    cases hd

/-- A text of printable ASCII counts as a number just if it is a numeric literal, or one of the
texts that are read besides and are no literals; and then as the number that it denotes. -/
theorem toNumber_iff_denotes {s : String} (printable : ∀ c ∈ s.toList, IsPrintable c)
    (short : s.length ≤ digitLimit) :
    ∃ n, (Value.text s).toNumber = .ok n ∧
      (n.isNaN = false ↔
        (∃ k, Denotes (unspaced s) k) ∨ ∃ k, DenotesLoosely (unspaced s) k) ∧
      (∀ k, Denotes (unspaced s) k → n = k) ∧
      ∀ k, DenotesLoosely (unspaced s) k → n = k ∧ ∀ l, ¬Denotes (unspaced s) l := by
  have trimmed := isTrimmed_unspaced printable
  have few : (unspaced s).length ≤ digitLimit := by
    rw [← String.length_toList] at short
    exact Nat.le_trans (trim_spec _ s.toList).1.length_le short
  have literal {k : Number} (h : Denotes (unspaced s) k) : readNumber s = k := by
    rw [readNumber_unspaced printable]
    exact readNumber_of_denotes trimmed few h
  have loose {k : Number} (h : DenotesLoosely (unspaced s) k) : readNumber s = k := by
    rw [readNumber_unspaced printable]
    exact readNumber_of_denotesLoosely trimmed h
  refine ⟨readNumber s, rfl, ⟨?_, ?_⟩, fun k h => literal h, fun k h => ⟨loose h, h.not_denotes⟩⟩
  · intro number
    rw [readNumber_unspaced printable] at number
    exact exists_denotes trimmed number
  · rintro (⟨k, h⟩ | ⟨k, h⟩)
    · rw [literal h]
      exact h.isNaN
    · rw [loose h]
      exact h.isNaN

/-- Blanks, a sign, the mark once more and underscores behind the mark of a radix. -/
theorem toNumber_doubleMark :
    ((∀ c ∈ " 0X -0x_1_0 ".toList, IsPrintable c) ∧ " 0X -0x_1_0 ".length ≤ digitLimit) ∧
      DenotesLoosely (unspaced " 0X -0x_1_0 ") (.int (-16)) ∧
      ∃ n, (Value.text " 0X -0x_1_0 ").toNumber = .ok n ∧
        (n.isNaN = false ↔ (∃ k, Denotes (unspaced " 0X -0x_1_0 ") k) ∨
          ∃ k, DenotesLoosely (unspaced " 0X -0x_1_0 ") k) ∧
        (∀ k, Denotes (unspaced " 0X -0x_1_0 ") k → n = k) ∧
        ∀ k, DenotesLoosely (unspaced " 0X -0x_1_0 ") k → n = k ∧
          ∀ l, ¬Denotes (unspaced " 0X -0x_1_0 ") l := by
  have printable : ∀ c ∈ " 0X -0x_1_0 ".toList, IsPrintable c := printable_of_all (by decide)
  have short : " 0X -0x_1_0 ".length ≤ digitLimit := by decide
  have separated : Separated 16 ['1', '_', '0'] [1, 0] := .apart (by decide) (.last (by decide))
  have outer : radixMark 16 = some ('X' : Char).toLower := by decide
  have inner : radixMark 16 = some ('x' : Char).toLower := by decide
  have loose : DenotesLoosely (unspaced " 0X -0x_1_0 ") (.int (-16)) :=
    .intro outer (.intro 1 .minus (.apart inner) separated) (by decide)
  exact ⟨⟨printable, short⟩, loose, toNumber_iff_denotes printable short⟩

/-- A number with a sign behind the mark of its radix is no literal, and is read. -/
theorem toNumber_signBehindMark :
    (∀ c ∈ "0x-5".toList, IsPrintable c) ∧ "0x-5".length ≤ digitLimit ∧
      (Value.text "0x-5").toNumber = .ok (.int (-5)) ∧ (Number.int (-5)).isNaN = false ∧
        ∀ k, ¬Denotes (unspaced "0x-5") k := by
  have printable : ∀ c ∈ "0x-5".toList, IsPrintable c := printable_of_all (by decide)
  have separated : Separated 16 ['5'] [5] := .last (by decide)
  have marked : radixMark 16 = some ('x' : Char).toLower := by decide
  have loose : DenotesLoosely (unspaced "0x-5") (.int (-5)) :=
    .intro marked (.intro 0 .minus .none separated) (by decide)
  have read := readNumber_of_denotesLoosely (isTrimmed_unspaced printable) loose
  rw [← readNumber_unspaced printable] at read
  exact ⟨printable, by decide, congrArg Except.ok read, rfl, loose.not_denotes⟩

end Text

end FeatureGates
