import FeatureGates.Proofs.DecimalNumerals

/-!
# Integer numerals

Which texts are read as integers, said without reading: `IsInteger` builds
them up from blanks, a sign, the mark of the radix and digits with single
underscores between them (`Separated`). For a text of printable ASCII that
does not end in a blank this is all there is to `readInt` (`readInt_iff`),
but for the limit on the digits in base ten.

The mark and the digits behind it cannot be mistaken for one another: no
digit of a radix is the letter of that radix (`radixDigit?_mark`).
-/

namespace FeatureGates

namespace Text

/-! ## Printable characters -/

/-- A character of printable ASCII, the space included. -/
def IsPrintable (c : Char) : Prop := 0x20 ≤ c.toNat ∧ c.toNat < 0x7F

instance (c : Char) : Decidable (IsPrintable c) :=
  inferInstanceAs (Decidable (0x20 ≤ c.toNat ∧ c.toNat < 0x7F))

theorem printable_of_all {cs : List Char} (h : cs.all (fun c => decide (IsPrintable c)) = true) :
    ∀ c ∈ cs, IsPrintable c := fun c mem => of_decide_eq_true (List.all_eq_true.1 h c mem)

/-- What holds of the characters before the last of ASCII, one by one. -/
theorem forall_ascii {p : Char → Prop} (h : ∀ k : Fin 0x7F, p (Char.ofNat k)) {c : Char}
    (bound : c.toNat < 0x7F) : p c := by
  have own := h ⟨c.toNat, bound⟩
  rwa [Char.ofNat_toNat] at own

/-- The only printable blank is the space. -/
theorem isBlank_of_printable {c : Char} (h : IsPrintable c) :
    isBlank c = decide (c = ' ') ∧ isAsciiBlank c = decide (c = ' ') := by
  have all : ∀ k : Fin 0x7F, 0x20 ≤ (Char.ofNat k).toNat →
      isBlank (Char.ofNat k) = decide (Char.ofNat k = ' ') ∧
        isAsciiBlank (Char.ofNat k) = decide (Char.ofNat k = ' ') := by decide
  exact forall_ascii (p := fun c => 0x20 ≤ c.toNat →
    isBlank c = decide (c = ' ') ∧ isAsciiBlank c = decide (c = ' ')) all h.2 h.1

/-! ## Digits and marks of a radix -/

/-- The digits of the largest radix, in either case. -/
def digitChars : List Char := "0123456789abcdefABCDEF".toList

theorem mem_digitChars {radix : Nat} {c : Char} {digit : Nat}
    (h : radixDigit? radix c = some digit) : c ∈ digitChars := by
  have all : ∀ k : Fin 0x7F,
      ('0' ≤ Char.ofNat k ∧ Char.ofNat k ≤ '9') ∨ ('a' ≤ Char.ofNat k ∧ Char.ofNat k ≤ 'f') ∨
        ('A' ≤ Char.ofNat k ∧ Char.ofNat k ≤ 'F') → Char.ofNat k ∈ digitChars := by decide
  have member {high : Char} (le : c ≤ high) (bound : high.toNat < 0x7F) :=
    forall_ascii (p := fun c => ('0' ≤ c ∧ c ≤ '9') ∨ ('a' ≤ c ∧ c ≤ 'f') ∨
      ('A' ≤ c ∧ c ≤ 'F') → c ∈ digitChars) all (Nat.lt_of_le_of_lt le bound)
  unfold radixDigit? at h
  split at h
  · rename_i within
    exact member within.2 (by decide) (.inl within)
  · split at h
    · rename_i within
      exact member within.2 (by decide) (.inr (.inl within))
    · split at h
      · rename_i within
        exact member within.2 (by decide) (.inr (.inr within))
      · cases h

theorem startsNumeral_of_radixDigit? {radix : Nat} {c : Char} {digit : Nat}
    (h : radixDigit? radix c = some digit) : startsNumeral c = true := by
  have all : digitChars.all startsNumeral = true := by decide
  exact List.all_eq_true.1 all c (mem_digitChars h)

theorem ne_underscore_of_radixDigit? {radix : Nat} {c : Char} {digit : Nat}
    (h : radixDigit? radix c = some digit) : c ≠ '_' := by
  have all : '_' ∉ digitChars := by decide
  rintro rfl
  exact all (mem_digitChars h)

theorem radixMark_cases {radix : Nat} {letter : Char} (h : radixMark radix = some letter) :
    radix = 16 ∧ letter = 'x' ∨ radix = 8 ∧ letter = 'o' ∨ radix = 2 ∧ letter = 'b' := by
  unfold radixMark at h
  split at h
  · exact .inl ⟨rfl, (Option.some.inj h).symm⟩
  · exact .inr (.inl ⟨rfl, (Option.some.inj h).symm⟩)
  · exact .inr (.inr ⟨rfl, (Option.some.inj h).symm⟩)
  · cases h

/-- The letter of a radix is none of its digits. -/
theorem radixDigit?_mark {radix : Nat} {mark : Char} (h : radixMark radix = some mark.toLower) :
    radixDigit? radix mark = none := by
  have each : digitChars.all (fun c => decide (c.toLower ≠ 'x' ∧ c.toLower ≠ 'o' ∧
      (c.toLower = 'b' → radixDigit? 2 c = none))) = true := by decide
  have all (c : Char) (mem : c ∈ digitChars) := of_decide_eq_true (List.all_eq_true.1 each c mem)
  cases own : radixDigit? radix mark with
  | none => rfl
  | some digit =>
    obtain ⟨x, o, b⟩ := all mark (mem_digitChars own)
    rcases radixMark_cases h with ⟨-, letter⟩ | ⟨-, letter⟩ | ⟨rfl, letter⟩
    · exact absurd letter x
    · exact absurd letter o
    · rw [b letter] at own
      cases own

theorem radixDigit?_of_isDigit {c : Char} (h : c.isDigit = true) :
    radixDigit? 10 c = some (c.toNat - '0'.toNat) := by
  obtain ⟨low, high⟩ := Char.isDigit_iff_toNat.1 h
  have low : 48 ≤ c.toNat := low
  have high : c.toNat ≤ 57 := high
  have between : '0' ≤ c ∧ c ≤ '9' := ⟨low, high⟩
  unfold radixDigit?
  dsimp only
  rw [if_pos between, Option.filter_some, if_pos (decide_eq_true (by omega))]
  rfl

theorem mapM_radixDigit? {digits : List Char} (h : AreDigits digits) :
    digits.mapM (radixDigit? 10) = some (values digits) := by
  induction digits with
  | nil => rfl
  | cons c rest ih =>
    have first := radixDigit?_of_isDigit (h c List.mem_cons_self)
    have others := ih fun d mem => h d (List.mem_cons_of_mem _ mem)
    rw [List.mapM_cons, first, others]
    rfl

/-! ## Digits with underscores -/

theorem exists_of_mapM_cons {f : Char → Option Nat} {c : Char} {cs : List Char} {digits : List Nat}
    (h : (c :: cs).mapM f = some digits) :
    ∃ digit others, f c = some digit ∧ cs.mapM f = some others ∧ digits = digit :: others := by
  rw [List.mapM_cons] at h
  obtain ⟨digit, first, h⟩ := Option.bind_eq_some_iff.1 h
  obtain ⟨others, rest, h⟩ := Option.bind_eq_some_iff.1 h
  exact ⟨digit, others, first, rest, (Option.some.inj h).symm⟩

/-- Digits of a radix, any two of them with at most one underscore between them. -/
inductive Separated (radix : Nat) : List Char → List Nat → Prop
  | last {c : Char} {digit : Nat} (h : radixDigit? radix c = some digit) :
      Separated radix [c] [digit]
  | next {c : Char} {digit : Nat} {cs : List Char} {digits : List Nat}
      (h : radixDigit? radix c = some digit) (rest : Separated radix cs digits) :
      Separated radix (c :: cs) (digit :: digits)
  | apart {c : Char} {digit : Nat} {cs : List Char} {digits : List Nat}
      (h : radixDigit? radix c = some digit) (rest : Separated radix cs digits) :
      Separated radix (c :: '_' :: cs) (digit :: digits)

namespace Separated

variable {radix : Nat} {cs : List Char} {digits : List Nat}

theorem exists_cons (h : Separated radix cs digits) :
    ∃ c rest digit, cs = c :: rest ∧ radixDigit? radix c = some digit := by
  cases h with
  | last first => exact ⟨_, _, _, rfl, first⟩
  | next first => exact ⟨_, _, _, rfl, first⟩
  | apart first => exact ⟨_, _, _, rfl, first⟩

theorem mem_cases (h : Separated radix cs digits) {c : Char} (mem : c ∈ cs) :
    radixDigit? radix c ≠ none ∨ c = '_' := by
  have digit {c : Char} {value : Nat} (first : radixDigit? radix c = some value) :
      radixDigit? radix c ≠ none := by
    rw [first]
    exact Option.some_ne_none value
  induction h with
  | last first =>
    rw [List.mem_singleton.1 mem]
    exact .inl (digit first)
  | next first rest ih =>
    rcases List.mem_cons.1 mem with rfl | mem
    · exact .inl (digit first)
    · exact ih mem
  | apart first rest ih =>
    rcases List.mem_cons.1 mem with rfl | mem
    · exact .inl (digit first)
    · rcases List.mem_cons.1 mem with rfl | mem
      · exact .inr rfl
      · exact ih mem

/-- Digits alone are separated. -/
theorem of_mapM (some_char : cs ≠ []) (h : cs.mapM (radixDigit? radix) = some digits) :
    Separated radix cs digits := by
  induction cs generalizing digits with
  | nil => exact absurd rfl some_char
  | cons c rest ih =>
    obtain ⟨digit, others, first, read, rfl⟩ := exists_of_mapM_cons h
    cases rest with
    | nil =>
      cases read
      exact .last first
    | cons d rest => exact .next first (ih (List.cons_ne_nil d rest) read)

end Separated

theorem underscoresSeparate_cons {c : Char} (h : c ≠ '_') (rest : List Char) :
    underscoresSeparate (c :: rest) = underscoresSeparate rest := by
  conv => lhs; unfold underscoresSeparate
  split
  · rename_i eq
    cases eq
  · rename_i eq
    exact absurd (List.cons.inj eq).1 h
  · rename_i eq
    exact absurd (List.cons.inj eq).1 h
  · rename_i eq
    cases eq
    rfl

/-- An underscore separates if a character other than an underscore follows. -/
theorem underscoresSeparate_underscore (rest : List Char) :
    underscoresSeparate ('_' :: rest) =
      (!rest.isEmpty && rest.head? != some '_' && underscoresSeparate rest) := by
  conv => lhs; unfold underscoresSeparate
  split
  · rename_i eq
    cases eq
  · rename_i eq
    cases eq
    rfl
  · rename_i eq
    cases eq
    rfl
  · rename_i rest' lone double eq
    cases eq
    cases rest with
    | nil => exact absurd rfl (lone rfl)
    | cons d more =>
      have other : d ≠ '_' := fun same => double more rfl (congrArg (· :: more) same)
      simp [other]

theorem filter_underscore_cons {c : Char} (h : c ≠ '_') (rest : List Char) :
    (c :: rest).filter (· != '_') = c :: rest.filter (· != '_') :=
  List.filter_cons_of_pos (p := (· != '_')) (bne_iff_ne.2 h)

/-- The body of an integer numeral is what `Separated` says: its checks pass and its digits are
read. The induction tells of a text with one more underscore in front as well, which the checks
behind that underscore let through. -/
theorem separated_of_checks {radix : Nat} {body : List Char} {digits : List Nat}
    (separate : underscoresSeparate body = true)
    (read : (body.filter (· != '_')).mapM (radixDigit? radix) = some digits) :
    body = [] ∧ digits = [] ∨ Separated radix body digits ∨
      ∃ rest, body = '_' :: rest ∧ Separated radix rest digits := by
  induction body generalizing digits with
  | nil =>
    cases read
    exact .inl ⟨rfl, rfl⟩
  | cons c rest ih =>
    by_cases underscore : c = '_'
    · subst underscore
      rw [underscoresSeparate_underscore, Bool.and_eq_true, Bool.and_eq_true] at separate
      obtain ⟨⟨some_char, single⟩, separate⟩ := separate
      rcases ih separate read with ⟨rfl, -⟩ | separated | ⟨more, rfl, -⟩
      · cases some_char
      · exact .inr (.inr ⟨rest, rfl, separated⟩)
      · cases single
    · rw [underscoresSeparate_cons underscore] at separate
      rw [filter_underscore_cons underscore] at read
      obtain ⟨digit, others, first, following, rfl⟩ := exists_of_mapM_cons read
      rcases ih separate following with ⟨rfl, rfl⟩ | separated | ⟨more, rfl, separated⟩
      · exact .inr (.inl (.last first))
      · exact .inr (.inl (.next first separated))
      · exact .inr (.inl (.apart first separated))

/-- The checks that the body of an integer numeral passes. -/
theorem Separated.checks {radix : Nat} {body : List Char} {digits : List Nat}
    (h : Separated radix body digits) :
    underscoresSeparate body = true ∧
      (body.filter (· != '_')).mapM (radixDigit? radix) = some digits := by
  induction h with
  | last first =>
    have solid := ne_underscore_of_radixDigit? first
    refine ⟨underscoresSeparate_cons solid [], ?_⟩
    rw [filter_underscore_cons solid, List.mapM_cons, first]
    rfl
  | next first rest ih =>
    have solid := ne_underscore_of_radixDigit? first
    refine ⟨(underscoresSeparate_cons solid _).trans ih.1, ?_⟩
    rw [filter_underscore_cons solid, List.mapM_cons, first, ih.2]
    rfl
  | apart first rest ih =>
    have solid := ne_underscore_of_radixDigit? first
    obtain ⟨d, more, _, rfl, second⟩ := rest.exists_cons
    have other := ne_underscore_of_radixDigit? second
    have inner : underscoresSeparate ('_' :: d :: more) = true := by
      rw [underscoresSeparate_underscore, ih.1]
      simp [other]
    have behind : ('_' :: d :: more).filter (· != '_') = (d :: more).filter (· != '_') := rfl
    refine ⟨(underscoresSeparate_cons solid _).trans inner, ?_⟩
    rw [filter_underscore_cons solid, behind, List.mapM_cons, first, ih.2]
    rfl

/-! ## Integers -/

/-- What may stand between the sign and the digits: the mark of the radix, and one underscore
after it. -/
inductive OwnMark (radix : Nat) : List Char → Prop
  | none : OwnMark radix []
  | bare {mark : Char} (h : radixMark radix = some mark.toLower) : OwnMark radix ['0', mark]
  | apart {mark : Char} (h : radixMark radix = some mark.toLower) : OwnMark radix ['0', mark, '_']

/-- An integer numeral of a radix that does not end in a blank, its sign and its digits. -/
inductive IsInteger (radix : Nat) : List Char → Sign → List Nat → Prop
  | intro (blanks : Nat) (sign : Sign) {mark body : List Char} {digits : List Nat}
      (marked : OwnMark radix mark) (separated : Separated radix body digits) :
      IsInteger radix (List.replicate blanks ' ' ++ (sign.chars ++ (mark ++ body))) sign digits

theorem IsInteger.ne_nil {radix : Nat} {cs : List Char} {sign : Sign} {digits : List Nat}
    (h : IsInteger radix cs sign digits) : cs ≠ [] := by
  obtain ⟨blanks, sign, marked, separated⟩ := h
  obtain ⟨c, rest, _, rfl, -⟩ := separated.exists_cons
  exact List.append_ne_nil_of_right_ne_nil _ (List.append_ne_nil_of_right_ne_nil _
    (List.append_ne_nil_of_right_ne_nil _ (List.cons_ne_nil c rest)))

theorem isInteger_digits (sign : Sign) {digits : List Char} (some_digit : digits ≠ [])
    (hd : AreDigits digits) : IsInteger 10 (sign.chars ++ digits) sign (values digits) :=
  .intro 0 sign .none (.of_mapM some_digit (mapM_radixDigit? hd))

/-- No integer in base ten is written with a point or an exponent. -/
theorem not_isInteger_of_mem {cs : List Char} {c : Char} (mem : c ∈ cs)
    (special : c = '.' ∨ c = 'e' ∨ c = 'E') (sign : Sign) (digits : List Nat) :
    ¬IsInteger 10 cs sign digits := by
  rintro ⟨blanks, sign, marked, separated⟩
  have other : c ≠ ' ' ∧ (∀ sign : Sign, c ∉ sign.chars) ∧ radixDigit? 10 c = none ∧ c ≠ '_' := by
    have signs {c : Char} (plus : c ≠ '+') (minus : c ≠ '-') (sign : Sign) : c ∉ sign.chars := by
      cases sign with
      | bare => exact List.not_mem_nil
      | plus => exact fun mem => plus (List.mem_singleton.1 mem)
      | minus => exact fun mem => minus (List.mem_singleton.1 mem)
    rcases special with rfl | rfl | rfl <;>
      exact ⟨by decide, signs (by decide) (by decide), by decide, by decide⟩
  rcases List.mem_append.1 mem with blank | mem
  · exact other.1 (List.eq_of_mem_replicate blank)
  · rcases List.mem_append.1 mem with own | mem
    · exact other.2.1 sign own
    · cases marked with
      | none =>
        rcases separated.mem_cases mem with digit | underscore
        · exact digit other.2.2.1
        · exact other.2.2.2 underscore
      | bare own => cases own
      | apart own => cases own

theorem exists_ownMark (radix : Nat) (cs : List Char) :
    ∃ mark, OwnMark radix mark ∧ cs = mark ++ dropRadixMark radix cs := by
  unfold dropRadixMark
  split
  · split
    · rename_i own
      split
      · exact ⟨_, .apart own, rfl⟩
      · exact ⟨_, .bare own, rfl⟩
    · exact ⟨[], .none, rfl⟩
  · exact ⟨[], .none, rfl⟩

theorem dropRadixMark_append {radix : Nat} {mark body : List Char} {digits : List Nat}
    (marked : OwnMark radix mark) (separated : Separated radix body digits) :
    dropRadixMark radix (mark ++ body) = body := by
  cases marked with
  | none =>
    rw [List.nil_append]
    unfold dropRadixMark
    split
    · rename_i letter rest
      refine if_neg fun own => ?_
      -- a zero and the letter of the radix: no digit of it, and no underscore
      cases separated with
      | next first rest =>
        obtain ⟨c, cs, digit, eq, second⟩ := rest.exists_cons
        cases eq
        rw [radixDigit?_mark own] at second
        cases second
      | apart first rest =>
        have underscore : ('_' : Char).toLower = '_' := by decide
        rw [underscore] at own
        rcases radixMark_cases own with ⟨-, other⟩ | ⟨-, other⟩ | ⟨-, other⟩ <;>
          exact absurd other (by decide)
    · rfl
  | bare own =>
    obtain ⟨c, rest, digit, rfl, first⟩ := separated.exists_cons
    show (if _ then _ else _) = _
    rw [if_pos own]
    split
    · rename_i eq
      exact absurd (List.cons.inj eq).1 (ne_underscore_of_radixDigit? first)
    · rfl
  | apart own => exact if_pos own

theorem OwnMark.exists_cons {radix : Nat} {mark body : List Char} {digits : List Nat}
    (marked : OwnMark radix mark) (separated : Separated radix body digits) :
    ∃ c rest, mark ++ body = c :: rest ∧ startsNumeral c = true := by
  cases marked with
  | none =>
    obtain ⟨c, rest, digit, rfl, first⟩ := separated.exists_cons
    exact ⟨c, rest, rfl, startsNumeral_of_radixDigit? first⟩
  | bare own => exact ⟨'0', _, rfl, by decide⟩
  | apart own => exact ⟨'0', _, rfl, by decide⟩

/-! ## Reading -/

theorem plainNumeral_eq_self {cs : List Char} (h : ∀ c ∈ cs, c.toNat < 127) :
    plainNumeral cs = cs := by
  unfold plainNumeral
  exact (List.map_congr_left fun c mem => if_pos (h c mem)).trans (List.map_id cs)

/-- On ASCII, what is left of the blanks is a sign, the mark of the radix and a body. -/
theorem readInt_eq_ok_iff {radix : Nat} {cs : List Char} (ascii : ∀ c ∈ cs, c.toNat < 127)
    {sign : Sign} {unsigned : List Char}
    (trimmed : signed (trim isAsciiBlank cs) = (sign.isNegative, unsigned)) {n : Int} :
    readInt radix cs = .ok n ↔ ∃ digits, Separated radix (dropRadixMark radix unsigned) digits ∧
      (radix = 10 → digits.length ≤ digitLimit) ∧ n = sign.apply (valueOfDigits radix digits) := by
  unfold readInt
  rw [plainNumeral_eq_self ascii, trimmed]
  dsimp only
  generalize dropRadixMark radix unsigned = body
  constructor
  · intro read
    split at read
    · cases read
    · rename_i checked
      simp only [Bool.or_eq_true, Bool.not_eq_true', not_or, Bool.not_eq_false] at checked
      obtain ⟨⟨some_char, first⟩, separate⟩ := checked
      split at read
      · cases read
      · rename_i digits values
        split at read
        · cases read
        · rename_i short
          cases read
          rcases separated_of_checks separate values with ⟨rfl, -⟩ | separated | ⟨rest, rfl, -⟩
          · exact absurd rfl some_char
          · exact ⟨digits, separated, fun ten => Nat.not_lt.1 fun long => short ⟨ten, long⟩, rfl⟩
          · exact absurd (beq_self_eq_true _) first
  · rintro ⟨digits, separated, short, rfl⟩
    obtain ⟨separate, values⟩ := separated.checks
    obtain ⟨c, rest, _, rfl, first⟩ := separated.exists_cons
    have other : (some c == some '_') = false :=
      beq_false_of_ne fun same => ne_underscore_of_radixDigit? first (Option.some.inj same)
    rw [if_neg (by simp [other, separate]), values]
    exact if_neg fun long => Nat.not_lt.2 (short long.1) long.2

theorem dropWhile_of_head? {p : Char → Bool} {cs : List Char}
    (starts : ∀ c ∈ cs.head?, p c = false) : cs.dropWhile p = cs := by
  cases cs with
  | nil => rfl
  | cons c rest => exact List.dropWhile_cons_of_neg (by rw [starts c rfl]; exact Bool.false_ne_true)

theorem trim_of_getLast? {p : Char → Bool} {cs : List Char}
    (ends : ∀ c ∈ cs.getLast?, p c = false) : trim p cs = cs.dropWhile p := by
  have last : ∀ c ∈ (cs.dropWhile p).reverse.head?, p c = false := by
    intro c mem
    refine ends c ?_
    rw [List.head?_reverse] at mem
    rw [← List.takeWhile_append_dropWhile (p := p) (l := cs), List.getLast?_append, mem]
    rfl
  rw [trim, dropWhile_of_head? last, List.reverse_reverse]

theorem exists_blanks {cs : List Char} (printable : ∀ c ∈ cs, IsPrintable c) :
    ∃ blanks, cs = List.replicate blanks ' ' ++ cs.dropWhile isAsciiBlank := by
  refine ⟨(cs.takeWhile isAsciiBlank).length, ?_⟩
  have spaces : cs.takeWhile isAsciiBlank =
      List.replicate (cs.takeWhile isAsciiBlank).length ' ' := by
    refine List.eq_replicate_iff.2 ⟨rfl, fun c mem => ?_⟩
    have blank := List.all_eq_true.1 List.all_takeWhile c mem
    rw [(isBlank_of_printable (printable c ((List.takeWhile_prefix _).subset mem))).2] at blank
    exact of_decide_eq_true blank
  rw [← spaces, List.takeWhile_append_dropWhile]

/-- A printable text that does not end in a blank is read as an integer just if it is a numeral
of that integer, in base ten one of admissible length. -/
theorem readInt_iff {radix : Nat} {cs : List Char} (printable : ∀ c ∈ cs, IsPrintable c)
    (ends : ∀ c ∈ cs.getLast?, c ≠ ' ') {n : Int} :
    readInt radix cs = .ok n ↔ ∃ sign digits, IsInteger radix cs sign digits ∧
      (radix = 10 → digits.length ≤ digitLimit) ∧ n = sign.apply (valueOfDigits radix digits) := by
  have ascii : ∀ c ∈ cs, c.toNat < 127 := fun c mem => (printable c mem).2
  have solid : ∀ c ∈ cs.getLast?, isAsciiBlank c = false := fun c mem =>
    (isBlank_of_printable (printable c (List.mem_of_getLast? mem))).2.trans
      (decide_eq_false (ends c mem))
  have front := trim_of_getLast? solid
  constructor
  · -- the numeral is put together from what each step of reading takes off
    intro read
    obtain ⟨blanks, eq⟩ := exists_blanks printable
    obtain ⟨sign, unsigned, negative⟩ := exists_sign (cs.dropWhile isAsciiBlank)
    have trimmed : signed (trim isAsciiBlank cs) =
        (sign.isNegative, (signed (cs.dropWhile isAsciiBlank)).2) := by
      rw [front, ← negative]
    obtain ⟨digits, separated, short, value⟩ := (readInt_eq_ok_iff ascii trimmed).1 read
    obtain ⟨mark, own, marked⟩ := exists_ownMark radix (signed (cs.dropWhile isAsciiBlank)).2
    refine ⟨sign, digits, ?_, short, value⟩
    rw [eq, unsigned, marked]
    exact .intro blanks sign own separated
  · rintro ⟨sign, digits, ⟨blanks, sign, marked, separated⟩, short, rfl⟩
    rename_i mark body
    obtain ⟨c, rest, eq, starts⟩ := marked.exists_cons separated
    have first : ∀ d ∈ (sign.chars ++ (mark ++ body)).head?, isAsciiBlank d = false := by
      rw [eq]
      exact notAsciiBlank_head? sign rest starts
    have spaces : ∀ d ∈ List.replicate blanks ' ', isAsciiBlank d = true := by
      intro d mem
      rw [List.eq_of_mem_replicate mem]
      decide
    have trimmed : signed (trim isAsciiBlank
        (List.replicate blanks ' ' ++ (sign.chars ++ (mark ++ body)))) =
          (sign.isNegative, mark ++ body) := by
      rw [front, List.dropWhile_append_of_pos spaces, dropWhile_of_head? first, eq]
      exact signed_chars sign rest starts
    refine (readInt_eq_ok_iff ascii trimmed).2 ⟨digits, ?_, short, rfl⟩
    rwa [dropRadixMark_append marked separated]

end Text

end FeatureGates
