import FeatureGates.Json.Reader
import FeatureGates.Proofs.DecimalNumerals

/-!
# What is JSON text

Two grammars, one over the other. A text is cut into lexemes with white space
between them (`Json.Lexes`), and the tokens of these lexemes spell a value
(`Json.Spells`). Beside the standard's literals `NaN`, `Infinity` and
`-Infinity` are numbers, and no integer is longer than integers may be.

The reader takes only such texts (`Json.isText_of_read`). For the lexemes that
is read off the scanners one by one. For the tokens it is the invariant of the
reader's steps: each open frame on the stack stands for the tokens that have
opened it and for the items or fields that it holds so far (`Json.Waiting`),
and a value that is finished is handed to the frame that waits for it.

The other way round the reader takes every sequence of tokens that spells a
value, so that over the tokens the grammar is exact (`Json.read?_eq_some_iff`).
-/

namespace FeatureGates

theorem Entries.put_ne_nil (entries : Entries) (key value : Value) :
    entries.put key value ≠ [] := by
  cases entries with
  | nil => nofun
  | cons entry rest =>
    unfold put
    split <;> nofun

namespace Json

open Text

/-! ## Lexemes -/

/-- The text goes on with a unit that makes a pair with the given one. -/
def Completes (high : Nat) (raw : List Char) (char : Char) (rest : List Char) : Prop :=
  ∃ e f g h low, raw = '\\' :: 'u' :: e :: f :: g :: h :: rest ∧
    Token.unit? e f g h = some low ∧ Token.ofPair? high low = some char

/-- What stands between quotes, and the characters that it stands for. -/
inductive IsQuoted : List Char → List Char → Prop
  | nil : IsQuoted [] []
  | plain {c : Char} {raw cs : List Char} : 32 ≤ c.toNat → c ≠ '"' → c ≠ '\\' →
    IsQuoted raw cs → IsQuoted (c :: raw) (c :: cs)
  | escape {letter c : Char} {raw cs : List Char} : Token.escaped? letter = some c →
    IsQuoted raw cs → IsQuoted ('\\' :: letter :: raw) (c :: cs)
  | unit {a b c d : Char} {n : Nat} {raw cs : List Char} : Token.unit? a b c d = some n →
    (∀ char rest, ¬Completes n raw char rest) → IsQuoted raw cs →
    IsQuoted ('\\' :: 'u' :: a :: b :: c :: d :: raw) (Token.ofUnit n :: cs)
  | pair {a b c d char : Char} {high : Nat} {raw rest cs : List Char} :
    Token.unit? a b c d = some high → Completes high raw char rest → IsQuoted rest cs →
    IsQuoted ('\\' :: 'u' :: a :: b :: c :: d :: raw) (char :: cs)

/-- A lone zero, or digits that do not begin with one. -/
structure IsWhole (digits : List Char) : Prop where
  ne_nil : digits ≠ []
  areDigits : AreDigits digits
  zero : digits.head? = some '0' → digits = ['0']

/-- A number. It is an integer if there is neither a fraction nor an exponent. -/
inductive IsNumber : List Char → Number → Prop
  | infinite (negative : Bool) :
    IsNumber (signMark negative ++ "Infinity".toList) (.float (.infinite negative))
  | integer (negative : Bool) {whole : List Char} : IsWhole whole → whole.length ≤ digitLimit →
    IsNumber (signMark negative ++ whole)
      (.int ((Sign.ofNegative negative).apply (Nat.ofDigitChars 10 whole 0)))
  | decimal (negative : Bool) {whole point fraction power : List Char} {exponent : Int} :
    IsWhole whole → Fraction point fraction → point ≠ ['.'] → Exponent power exponent →
    point ++ power ≠ [] →
    IsNumber (signMark negative ++ (whole ++ (point ++ power)))
      (.float (DecimalNumeral.toBinary64 ⟨negative, values whole, values fraction, exponent⟩))

/-- One token and the characters that it is written with. -/
inductive IsLexeme : List Char → Token → Prop
  | openList : IsLexeme ['['] .openList
  | closeList : IsLexeme [']'] .closeList
  | openRecord : IsLexeme ['\x7b'] .openRecord
  | closeRecord : IsLexeme ['\x7d'] .closeRecord
  | comma : IsLexeme [','] .comma
  | colon : IsLexeme [':'] .colon
  | text {raw cs : List Char} : IsQuoted raw cs →
    IsLexeme ('"' :: (raw ++ ['"'])) (.scalar (.text (String.ofList cs)))
  | word {word : List Char} {value : Scalar} : (word, value) ∈ Token.words →
    IsLexeme word (.scalar value)
  | number {cs : List Char} {n : Number} : IsNumber cs n → IsLexeme cs (.scalar (.number n))

/-- Lexemes, with white space before, between and after them. -/
inductive Lexes : List Char → List Token → Prop
  | nil {spaces : List Char} : (∀ c ∈ spaces, Token.isSpace c = true) → Lexes spaces []
  | cons {spaces lexeme rest : List Char} {token : Token} {tokens : List Token} :
    (∀ c ∈ spaces, Token.isSpace c = true) → IsLexeme lexeme token → Lexes rest tokens →
    Lexes (spaces ++ (lexeme ++ rest)) (token :: tokens)

namespace Token

/-! ## The scanners -/

theorem exists_of_cons {scanned : Option (List Char × List Char)} {c : Char}
    {chars after : List Char}
    (h : (do let (chars, after) ← scanned; some (c :: chars, after)) = some (chars, after)) :
    ∃ cs, chars = c :: cs ∧ scanned = some (cs, after) := by
  obtain ⟨⟨cs, after'⟩, found, same⟩ := Option.bind_eq_some_iff.1 h
  cases same
  exact ⟨cs, rfl, found⟩

theorem scanString_quoted {cs chars after : List Char} (h : scanString cs = some (chars, after)) :
    ∃ raw, cs = raw ++ '"' :: after ∧ IsQuoted raw chars := by
  fun_induction scanString cs generalizing chars after with
  | case1 => cases h
  | case2 rest =>
    cases h
    exact ⟨[], rfl, .nil⟩
  | case3 a b c d e f g h' rest ihRest ihLow =>
    obtain ⟨high, first, h⟩ := Option.bind_eq_some_iff.1 h
    cases second : (unit? e f g h').bind (ofPair? high) with
    | some char =>
      simp only [second] at h
      obtain ⟨cs, rfl, scanned⟩ := exists_of_cons h
      obtain ⟨raw, rfl, quoted⟩ := ihRest scanned
      obtain ⟨low, unit, pair⟩ := Option.bind_eq_some_iff.1 second
      exact ⟨_, rfl, .pair first ⟨e, f, g, h', low, rfl, unit, pair⟩ quoted⟩
    | none =>
      simp only [second] at h
      obtain ⟨cs, rfl, scanned⟩ := exists_of_cons h
      obtain ⟨raw, text, quoted⟩ := ihLow scanned
      refine ⟨'\\' :: 'u' :: a :: b :: c :: d :: raw, by rw [text]; rfl, .unit first ?_ quoted⟩
      rintro char tail ⟨e', f', g', h'', low, rfl, unit, pair⟩
      simp only [List.cons_append, List.cons.injEq] at text
      obtain ⟨-, -, rfl, rfl, rfl, rfl, -⟩ := text
      simp [unit, pair] at second
  | case4 a b c d rest lone ih =>
    obtain ⟨n, first, h⟩ := Option.bind_eq_some_iff.1 h
    obtain ⟨cs, rfl, scanned⟩ := exists_of_cons h
    obtain ⟨raw, rfl, quoted⟩ := ih scanned
    refine ⟨_, rfl, .unit first ?_ quoted⟩
    rintro char tail ⟨e, f, g, h', low, rfl, -⟩
    exact lone e f g h' _ rfl
  | case5 letter rest _ _ ih =>
    obtain ⟨c, escaped, h⟩ := Option.bind_eq_some_iff.1 h
    obtain ⟨cs, rfl, scanned⟩ := exists_of_cons h
    obtain ⟨raw, rfl, quoted⟩ := ih scanned
    exact ⟨_, rfl, .escape escaped quoted⟩
  | case6 => cases h
  | case7 c rest quote _ _ _ plain ih =>
    obtain ⟨cs, rfl, scanned⟩ := exists_of_cons h
    obtain ⟨raw, rfl, quoted⟩ := ih scanned
    simp only [not_or, Nat.not_lt] at plain
    exact ⟨_, rfl, .plain plain.1 quote plain.2 quoted⟩

theorem areDigits_takeWhile (cs : List Char) : AreDigits (cs.takeWhile Char.isDigit) :=
  List.all_eq_true.1 List.all_takeWhile

theorem filterMap_digitValue? {digits : List Char} (h : AreDigits digits) :
    digits.filterMap digitValue? = values digits := by
  induction digits with
  | nil => rfl
  | cons c digits ih =>
    rw [List.filterMap_cons_some (digitValue?_of_isDigit (h c List.mem_cons_self)),
      ih fun d mem => h d (List.mem_cons_of_mem c mem)]
    rfl

theorem scanWhole_isWhole {cs whole rest : List Char} (h : scanWhole cs = some (whole, rest)) :
    cs = whole ++ rest ∧ IsWhole whole := by
  unfold scanWhole at h
  split at h
  · cases h
    exact ⟨rfl, List.cons_ne_nil _ _, fun c mem => List.mem_singleton.1 mem ▸ isDigit_zero,
      fun _ => rfl⟩
  · rename_i other
    split at h
    · cases h
    · rename_i digits some_digit
      cases h
      refine ⟨(List.takeWhile_append_dropWhile).symm, some_digit, areDigits_takeWhile cs, ?_⟩
      intro zero
      cases cs with
      | nil => cases zero
      | cons c cs =>
        rw [List.takeWhile_cons] at zero
        split at zero
        · cases zero
          exact absurd rfl (other cs)
        · cases zero

theorem scanFraction_fraction (cs : List Char) :
    ∃ point digits, cs = point ++ (scanFraction cs).2 ∧ Fraction point digits ∧ point ≠ ['.'] ∧
      (scanFraction cs).1 = if point = [] then none else some digits := by
  unfold scanFraction
  split
  · rename_i rest
    split
    · exact ⟨[], [], rfl, .none, nofun, rfl⟩
    · rename_i some_digit
      refine ⟨'.' :: rest.takeWhile Char.isDigit, _, ?_, .point (areDigits_takeWhile rest), ?_, rfl⟩
      · exact congrArg ('.' :: ·) (List.takeWhile_append_dropWhile).symm
      · intro same
        exact some_digit (List.cons.inj same).2
  · exact ⟨[], [], rfl, .none, nofun, rfl⟩

theorem scanPower_exponent (cs : List Char) :
    ∃ power exponent, cs = power ++ (scanPower cs).2 ∧ Exponent power exponent ∧
      (scanPower cs).1 = if power = [] then none else some exponent := by
  unfold scanPower
  split
  · rename_i mark rest
    split
    · rename_i letter
      obtain ⟨sign, marked, negative⟩ := exists_sign rest
      dsimp only
      split
      · exact ⟨[], 0, rfl, .none, rfl⟩
      · rename_i some_digit
        have hd := areDigits_takeWhile (signed rest).2
        refine ⟨_, _, ?_, .power letter sign some_digit hd, ?_⟩
        · show mark :: rest = mark :: ((sign.chars ++ _) ++ _)
          rw [List.append_assoc, List.takeWhile_append_dropWhile, ← marked]
        · rw [negative, filterMap_digitValue? hd, valueOfDigits_values]
          rfl
    · exact ⟨[], 0, rfl, .none, rfl⟩
  · exact ⟨[], 0, rfl, .none, rfl⟩

theorem numeral_decimal (negative : Bool) (whole : List Char) {fraction : Option (List Char)}
    {power : Option Int} (h : fraction ≠ none ∨ power ≠ none) :
    numeral negative whole fraction power = some (.float (DecimalNumeral.toBinary64
      ⟨negative, whole.filterMap digitValue?, (fraction.getD []).filterMap digitValue?,
        power.getD 0⟩)) := by
  cases fraction with
  | some digits => rfl
  | none =>
    cases power with
    | some exponent => rfl
    | none => rcases h with h | h <;> exact absurd rfl h

theorem isNumber_of_numeral {negative : Bool} {whole point fraction power : List Char}
    {exponent : Int} {n : Number} (hw : IsWhole whole) (hf : Fraction point fraction)
    (some_digit : point ≠ ['.']) (he : Exponent power exponent)
    (h : numeral negative whole (if point = [] then none else some fraction)
      (if power = [] then none else some exponent) = some n) :
    IsNumber (signMark negative ++ (whole ++ (point ++ power))) n := by
  by_cases integer : point ++ power = []
  · obtain ⟨rfl, rfl⟩ := List.append_eq_nil_iff.1 integer
    simp only [numeral, if_true] at h
    split at h
    · cases h
    · rename_i short
      cases h
      have written := IsNumber.integer negative hw (Nat.le_of_not_lt short)
      rw [filterMap_digitValue? hw.areDigits, valueOfDigits_values, List.append_nil,
        List.append_nil]
      cases negative <;> exact written
  · have digits : AreDigits fraction := by
      cases hf with
      | none => nofun
      | point hd => exact hd
    have fractionDigits : (if point = [] then none else some fraction).getD [] = fraction := by
      cases hf <;> rfl
    have powerOf : (if power = [] then none else some exponent).getD 0 = exponent := by
      cases he <;> rfl
    rw [numeral_decimal negative whole ?_, fractionDigits, powerOf,
      filterMap_digitValue? hw.areDigits, filterMap_digitValue? digits] at h
    · cases h
      exact .decimal negative hw hf some_digit he integer
    · by_cases bare : point = []
      · refine .inr ?_
        rw [if_neg fun none => integer (by rw [bare, none]; rfl)]
        exact Option.some_ne_none exponent
      · refine .inl ?_
        rw [if_neg bare]
        exact Option.some_ne_none fraction

/-- A number behind its sign. -/
def scanUnsigned (negative : Bool) (unsigned : List Char) : Option (Number × List Char) :=
  if "Infinity".toList.isPrefixOf unsigned then
    some (.float (.infinite negative), unsigned.drop 8)
  else
    (scanWhole unsigned).bind fun whole =>
      let fraction := scanFraction whole.2
      let power := scanPower fraction.2
      (numeral negative whole.1 fraction.1 power.1).bind fun n => some (n, power.2)

theorem scanNumber_eq (cs : List Char) : ∃ negative unsigned,
    cs = signMark negative ++ unsigned ∧ scanNumber cs = scanUnsigned negative unsigned := by
  by_cases minus : ∃ rest, cs = '-' :: rest
  · obtain ⟨rest, rfl⟩ := minus
    exact ⟨true, rest, rfl, rfl⟩
  · refine ⟨false, cs, rfl, ?_⟩
    unfold scanNumber
    split
    rename_i taken
    split at taken
    · exact absurd ⟨_, rfl⟩ minus
    · cases taken
      rfl

theorem scanNumber_isNumber {cs rest : List Char} {n : Number}
    (h : scanNumber cs = some (n, rest)) : ∃ lexeme, cs = lexeme ++ rest ∧ IsNumber lexeme n := by
  obtain ⟨negative, unsigned, text, same⟩ := scanNumber_eq cs
  rw [same] at h
  unfold scanUnsigned at h
  split at h
  · rename_i infinite
    cases h
    obtain ⟨behind, same⟩ := List.isPrefixOf_iff_prefix.1 infinite
    refine ⟨_, ?_, .infinite negative⟩
    rw [text, ← same, List.append_assoc]
    rfl
  · obtain ⟨⟨whole, afterWhole⟩, scanned, read⟩ := Option.bind_eq_some_iff.1 h
    obtain ⟨rfl, hw⟩ := scanWhole_isWhole scanned
    obtain ⟨point, fraction, afterPoint, hf, some_digit, fractionOf⟩ :=
      scanFraction_fraction afterWhole
    obtain ⟨power, exponent, afterPower, he, powerOf⟩ :=
      scanPower_exponent (scanFraction afterWhole).2
    obtain ⟨number, value, read⟩ := Option.bind_eq_some_iff.1 read
    cases read
    rw [fractionOf, powerOf] at value
    refine ⟨_, ?_, isNumber_of_numeral hw hf some_digit he value⟩
    calc cs = signMark negative ++ (whole ++ afterWhole) := text
      _ = signMark negative ++ (whole ++ (point ++ (power ++ _))) := by
        rw [← afterPower, ← afterPoint]
      _ = signMark negative ++ (whole ++ (point ++ power)) ++ _ := by
        simp only [List.append_assoc]

theorem scan_isLexeme {cs rest : List Char} {token : Token} (h : scan cs = some (token, rest)) :
    ∃ lexeme, cs = lexeme ++ rest ∧ IsLexeme lexeme token := by
  unfold scan at h
  split at h
  · cases h
    exact ⟨_, rfl, .openList⟩
  · cases h
    exact ⟨_, rfl, .closeList⟩
  · cases h
    exact ⟨_, rfl, .openRecord⟩
  · cases h
    exact ⟨_, rfl, .closeRecord⟩
  · cases h
    exact ⟨_, rfl, .comma⟩
  · cases h
    exact ⟨_, rfl, .colon⟩
  · obtain ⟨⟨chars, after⟩, scanned, h⟩ := Option.bind_eq_some_iff.1 h
    cases h
    obtain ⟨raw, rfl, quoted⟩ := scanString_quoted scanned
    exact ⟨_, by simp, .text quoted⟩
  · split at h
    · rename_i word value found
      cases h
      have front : word.isPrefixOf cs = true := by simpa using List.find?_some found
      obtain ⟨behind, rfl⟩ := List.isPrefixOf_iff_prefix.1 front
      exact ⟨word, by simp, .word (List.mem_of_find?_eq_some found)⟩
    · obtain ⟨⟨number, after⟩, scanned, h⟩ := Option.bind_eq_some_iff.1 h
      cases h
      obtain ⟨lexeme, rfl, isNumber⟩ := scanNumber_isNumber scanned
      exact ⟨lexeme, rfl, .number isNumber⟩

theorem lexes_nil {cs : List Char} (blank : cs.dropWhile isSpace = []) : Lexes cs [] := by
  rw [← List.takeWhile_append_dropWhile (p := isSpace) (l := cs), blank, List.append_nil]
  exact .nil (List.all_eq_true.1 List.all_takeWhile)

theorem scanUpTo_lexes {fuel : Nat} {cs : List Char} {tokens : List Token}
    (h : scanUpTo fuel cs = some tokens) : Lexes cs tokens := by
  induction fuel generalizing cs tokens with
  | zero =>
    simp only [scanUpTo, List.isEmpty_iff] at h
    split at h
    · rename_i blank
      cases h
      exact lexes_nil blank
    · cases h
  | succ fuel ih =>
    simp only [scanUpTo] at h
    split at h
    · rename_i blank
      cases h
      exact lexes_nil blank
    · obtain ⟨⟨token, after⟩, scanned, h⟩ := Option.bind_eq_some_iff.1 h
      obtain ⟨others, more, h⟩ := Option.bind_eq_some_iff.1 h
      cases h
      obtain ⟨lexeme, text, isLexeme⟩ := scan_isLexeme scanned
      rw [← List.takeWhile_append_dropWhile (p := isSpace) (l := cs), text]
      exact .cons (List.all_eq_true.1 List.all_takeWhile) isLexeme (ih more)

end Token

/-! ## Values -/

mutual

/-- The tokens of a value. -/
inductive Spells : List Token → Value → Prop
  | scalar (s : Scalar) : Spells [.scalar s] (.scalar s)
  | emptyList : Spells [.openList, .closeList] (.list [])
  | list {before tokens : List Token} {items : List Value} {item : Value} :
    Items before items → Spells tokens item →
    Spells (.openList :: (before ++ tokens) ++ [.closeList]) (.list (items ++ [item]))
  | emptyRecord : Spells [.openRecord, .closeRecord] .emptyRecord
  | record {before tokens : List Token} {entries : Entries} {value : Value} (key : String) :
    Fields before entries → Spells tokens value →
    Spells (.openRecord :: (before ++ .scalar (.text key) :: .colon :: tokens) ++ [.closeRecord])
      (.record (entries.put (.text key) value))

/-- Items, each with a comma behind it. -/
inductive Items : List Token → List Value → Prop
  | nil : Items [] []
  | snoc {before tokens : List Token} {items : List Value} {item : Value} :
    Items before items → Spells tokens item →
    Items (before ++ tokens ++ [.comma]) (items ++ [item])

/-- Fields, each with a comma behind it. Of two equal keys the later value counts. -/
inductive Fields : List Token → Entries → Prop
  | nil : Fields [] []
  | snoc {before tokens : List Token} {entries : Entries} {value : Value} (key : String) :
    Fields before entries → Spells tokens value →
    Fields (before ++ .scalar (.text key) :: .colon :: tokens ++ [.comma])
      (entries.put (.text key) value)

end

/-! ## The reader takes nothing else -/

/-- The tokens that have opened the frames of a stack, each frame waiting for a value. -/
inductive Waiting : List Frame → List Token → Prop
  | nil : Waiting [] []
  | list {stack : List Frame} {before tokens : List Token} {items : List Value} :
    Waiting stack before → Items tokens items →
    Waiting (.list items.reverse :: stack) (before ++ .openList :: tokens)
  | field {stack : List Frame} {before tokens : List Token} {entries : Entries} (key : String) :
    Waiting stack before → Fields tokens entries →
    Waiting (.field entries key :: stack)
      (before ++ .openRecord :: (tokens ++ [.scalar (.text key), .colon]))

/-- The tokens that have brought a reader to where it is. -/
inductive Reads : Reader → List Token → Prop
  | value {stack : List Frame} {tokens : List Token} :
    Waiting stack tokens → Reads ⟨stack, .value, .null⟩ tokens
  | valueOrClose {stack : List Frame} {before : List Token} :
    Waiting stack before → Reads ⟨.list [] :: stack, .valueOrClose, .null⟩ (before ++ [.openList])
  | keyOrClose {stack : List Frame} {before : List Token} :
    Waiting stack before →
    Reads ⟨.record [] :: stack, .keyOrClose, .null⟩ (before ++ [.openRecord])
  | key {stack : List Frame} {before tokens : List Token} {entries : Entries} :
    Waiting stack before → Fields tokens entries →
    Reads ⟨.record entries :: stack, .key, .null⟩ (before ++ .openRecord :: tokens)
  | colon {stack : List Frame} {before tokens : List Token} {entries : Entries} (key : String) :
    Waiting stack before → Fields tokens entries →
    Reads ⟨.field entries key :: stack, .colon, .null⟩
      (before ++ .openRecord :: (tokens ++ [.scalar (.text key)]))
  | item {stack : List Frame} {before tokens tokens' : List Token} {items : List Value}
    {item : Value} : Waiting stack before → Items tokens items → Spells tokens' item →
    Reads ⟨.list (item :: items.reverse) :: stack, .separator, .null⟩
      (before ++ .openList :: (tokens ++ tokens'))
  | entry {stack : List Frame} {before tokens tokens' : List Token} {entries : Entries}
    {value : Value} (key : String) : Waiting stack before → Fields tokens entries →
    Spells tokens' value →
    Reads ⟨.record (entries.put (.text key) value) :: stack, .separator, .null⟩
      (before ++ .openRecord :: (tokens ++ .scalar (.text key) :: .colon :: tokens'))
  | nothing {tokens : List Token} {value : Value} :
    Spells tokens value → Reads ⟨[], .nothing, value⟩ tokens

namespace Reader

/-- A value that is finished is handed to the frame that waits for it. -/
theorem reads_deliver {stack : List Frame} {before tokens : List Token} {value : Value}
    {reader : Reader} (h : Waiting stack before) (spelled : Spells tokens value)
    (delivered : deliver stack value = some reader) : Reads reader (before ++ tokens) := by
  cases h with
  | nil =>
    cases delivered
    exact .nothing spelled
  | list waiting items =>
    cases delivered
    have reads := Reads.item waiting items spelled
    rwa [List.append_assoc, List.cons_append]
  | field key waiting fields =>
    cases delivered
    have reads := Reads.entry key waiting fields spelled
    rwa [List.append_assoc, List.cons_append, List.append_assoc]

theorem reads_openValue {stack : List Frame} {tokens : List Token} {token : Token}
    {reader : Reader} (h : Waiting stack tokens) (opened : openValue token stack = some reader) :
    Reads reader (tokens ++ [token]) := by
  unfold openValue at opened
  split at opened
  · exact reads_deliver h (.scalar _) opened
  · cases opened
    exact .valueOrClose h
  · cases opened
    exact .keyOrClose h
  · cases opened

theorem reads_openField {stack : List Frame} {before tokens : List Token} {entries : Entries}
    {token : Token} {reader : Reader} (h : Waiting stack before) (fields : Fields tokens entries)
    (opened : openField token (.record entries :: stack) = some reader) :
    Reads reader (before ++ .openRecord :: tokens ++ [token]) := by
  unfold openField at opened
  split at opened
  · rename_i key held rest same
    cases same
    cases opened
    have reads := Reads.colon key h fields
    rwa [List.append_assoc]
  · cases opened

/-- In a list an item may be followed by a comma or by the end. -/
theorem reads_separator_list {stack : List Frame} {before tokens tokens' : List Token}
    {items : List Value} {item : Value} {token : Token} {reader : Reader}
    (h : Waiting stack before) (spelledItems : Items tokens items) (spelled : Spells tokens' item)
    (stepped : step ⟨.list (item :: items.reverse) :: stack, .separator, .null⟩ token =
      some reader) : Reads reader (before ++ .openList :: (tokens ++ tokens') ++ [token]) := by
  cases token with
  | comma =>
    cases stepped
    have waiting := Waiting.list h (.snoc spelledItems spelled)
    rw [List.reverse_concat] at waiting
    rw [List.append_assoc]
    exact .value waiting
  | closeList =>
    rw [List.append_assoc]
    refine reads_deliver h (.list spelledItems spelled) ?_
    rw [← stepped, ← List.reverse_reverse (items ++ [item]), List.reverse_concat]
    rfl
  | _ => cases stepped

/-- In a record an entry may be followed by a comma or by the end. -/
theorem reads_separator_record {stack : List Frame} {before tokens tokens' : List Token}
    {entries : Entries} {value : Value} {token : Token} {reader : Reader} (key : String)
    (h : Waiting stack before) (fields : Fields tokens entries) (spelled : Spells tokens' value)
    (stepped : step ⟨.record (entries.put (.text key) value) :: stack, .separator, .null⟩ token =
      some reader) :
    Reads reader (before ++ .openRecord :: (tokens ++ .scalar (.text key) :: .colon :: tokens') ++
      [token]) := by
  cases token with
  | comma =>
    cases stepped
    rw [List.append_assoc]
    exact .key h (.snoc key fields spelled)
  | closeRecord =>
    rw [List.append_assoc]
    exact reads_deliver h (.record key fields spelled) stepped
  | _ => cases stepped

theorem reads_step {reader reader' : Reader} {tokens : List Token} {token : Token}
    (h : Reads reader tokens) (stepped : reader.step token = some reader') :
    Reads reader' (tokens ++ [token]) := by
  cases h with
  | value waiting => exact reads_openValue waiting stepped
  | valueOrClose waiting =>
    cases token with
    | closeList =>
      rw [List.append_assoc]
      exact reads_deliver waiting .emptyList stepped
    | _ => exact reads_openValue (.list waiting .nil) stepped
  | keyOrClose waiting =>
    cases token with
    | closeRecord =>
      rw [List.append_assoc]
      exact reads_deliver waiting .emptyRecord stepped
    | _ => exact reads_openField waiting .nil stepped
  | key waiting fields => exact reads_openField waiting fields stepped
  | colon key waiting fields =>
    cases token with
    | colon =>
      cases stepped
      have next := Waiting.field key waiting fields
      rw [List.append_assoc, List.cons_append, List.append_assoc]
      exact .value next
    | _ => cases stepped
  | item waiting items spelled => exact reads_separator_list waiting items spelled stepped
  | entry key waiting fields spelled =>
    exact reads_separator_record key waiting fields spelled stepped
  | nothing spelled => cases stepped

/-- Whatever tokens are run, they have brought the reader to where it is. -/
theorem reads_run {reader reader' : Reader} {before tokens : List Token}
    (h : Reads reader before) (ran : tokens.foldlM step reader = some reader') :
    Reads reader' (before ++ tokens) := by
  induction tokens generalizing reader before with
  | nil =>
    cases ran
    rwa [List.append_nil]
  | cons token rest ih =>
    rw [List.foldlM_cons] at ran
    obtain ⟨next, stepped, ran⟩ := Option.bind_eq_some_iff.1 ran
    have read := ih (reads_step h stepped) ran
    rwa [List.append_assoc] at read

end Reader

/-! ## The reader takes all of these -/

namespace Reader

/-- Where a value or the end of a list has to come, a value may come. -/
theorem run_item {tokens : List Token} {stack : List Frame} {items : List Value} {item : Value}
    (spelled : Spells tokens item)
    (ran : tokens.foldlM step ⟨.list items.reverse :: stack, .value, .null⟩ =
      deliver (.list items.reverse :: stack) item) :
    tokens.foldlM step ⟨.list items.reverse :: stack,
        if items = [] then .valueOrClose else .value, .null⟩ =
      some ⟨.list (item :: items.reverse) :: stack, .separator, .null⟩ := by
  split
  · have same : tokens.foldlM step ⟨.list items.reverse :: stack, .valueOrClose, .null⟩ =
        tokens.foldlM step ⟨.list items.reverse :: stack, .value, .null⟩ := by
      cases spelled <;> rfl
    rw [same, ran]
    rfl
  · rw [ran]
    rfl

theorem run_entry {tokens : List Token} {stack : List Frame} {entries : Entries} {value : Value}
    (key : String) (ran : tokens.foldlM step ⟨.field entries key :: stack, .value, .null⟩ =
      deliver (.field entries key :: stack) value) :
    (Token.scalar (.text key) :: .colon :: tokens).foldlM step ⟨.record entries :: stack,
        if entries = [] then .keyOrClose else .key, .null⟩ =
      some ⟨.record (entries.put (.text key) value) :: stack, .separator, .null⟩ := by
  split <;> exact ran

mutual

/-- A reader that waits for a value takes the tokens of one and hands it over. -/
theorem run_of_spells {tokens : List Token} {value : Value} (stack : List Frame) :
    Spells tokens value → tokens.foldlM step ⟨stack, .value, .null⟩ = deliver stack value
  | .scalar s => by
    show (deliver stack (.scalar s)).bind pure = _
    cases deliver stack (.scalar s) <;> rfl
  | .emptyList => by
    show (deliver stack (.list [])).bind pure = _
    cases deliver stack (.list []) <;> rfl
  | .emptyRecord => by
    show (deliver stack .emptyRecord).bind pure = _
    cases deliver stack .emptyRecord <;> rfl
  | @Spells.list before tokens items item held spelled => by
    have ran := run_item spelled (run_of_spells (.list items.reverse :: stack) spelled)
    have all : (before ++ tokens).foldlM step ⟨.list [] :: stack, .valueOrClose, .null⟩ =
        some ⟨.list (item :: items.reverse) :: stack, .separator, .null⟩ := by
      rw [List.foldlM_append, run_of_items stack held]
      exact ran
    show ((before ++ tokens) ++ [Token.closeList]).foldlM step
      ⟨.list [] :: stack, .valueOrClose, .null⟩ = _
    rw [List.foldlM_append, all, ← List.reverse_reverse (items ++ [item]), List.reverse_concat]
    show (deliver stack (.list _)).bind pure = _
    cases deliver stack (.list (item :: items.reverse).reverse) <;> rfl
  | @Spells.record before tokens entries value key held spelled => by
    have ran := run_entry key (run_of_spells (.field entries key :: stack) spelled)
    have all : (before ++ .scalar (.text key) :: .colon :: tokens).foldlM step
        ⟨.record [] :: stack, .keyOrClose, .null⟩ =
        some ⟨.record (entries.put (.text key) value) :: stack, .separator, .null⟩ := by
      rw [List.foldlM_append, run_of_fields stack held]
      exact ran
    show ((before ++ .scalar (.text key) :: .colon :: tokens) ++ [Token.closeRecord]).foldlM step
      ⟨.record [] :: stack, .keyOrClose, .null⟩ = _
    rw [List.foldlM_append, all]
    show (deliver stack (.record _)).bind pure = _
    cases deliver stack (.record (entries.put (.text key) value)) <;> rfl

theorem run_of_items {tokens : List Token} {items : List Value} (stack : List Frame) :
    Items tokens items → tokens.foldlM step ⟨.list [] :: stack, .valueOrClose, .null⟩ =
      some ⟨.list items.reverse :: stack, if items = [] then .valueOrClose else .value, .null⟩
  | .nil => rfl
  | @Items.snoc before tokens items item held spelled => by
    have ran := run_item spelled (run_of_spells (.list items.reverse :: stack) spelled)
    rw [List.append_assoc, List.foldlM_append, run_of_items stack held]
    show (tokens ++ [Token.comma]).foldlM step _ = _
    rw [List.foldlM_append, ran, List.reverse_concat, if_neg (by simp)]
    rfl

theorem run_of_fields {tokens : List Token} {entries : Entries} (stack : List Frame) :
    Fields tokens entries → tokens.foldlM step ⟨.record [] :: stack, .keyOrClose, .null⟩ =
      some ⟨.record entries :: stack, if entries = [] then .keyOrClose else .key, .null⟩
  | .nil => rfl
  | @Fields.snoc before tokens entries value key held spelled => by
    have ran := run_entry key (run_of_spells (.field entries key :: stack) spelled)
    rw [List.append_assoc, List.foldlM_append, run_of_fields stack held]
    show ((Token.scalar (.text key) :: .colon :: tokens) ++ [Token.comma]).foldlM step _ = _
    rw [List.foldlM_append, ran, if_neg (Entries.put_ne_nil entries _ value)]
    rfl

end

end Reader

/-! ## Texts -/

/-- Over the tokens of a text the reader is exact. -/
theorem read?_eq_some_iff {s : String} {value : Value} :
    read? s = some value ↔
      ∃ tokens, Token.scanAll s.toList = some tokens ∧ Spells tokens value := by
  constructor
  · intro h
    obtain ⟨tokens, scanned, read⟩ := Option.bind_eq_some_iff.1 h
    obtain ⟨reader, ran, result⟩ := Option.bind_eq_some_iff.1 read
    have reads := Reader.reads_run (.value .nil) ran
    rw [List.nil_append] at reads
    refine ⟨tokens, scanned, ?_⟩
    cases reads with
    | nothing spelled =>
      cases result
      exact spelled
    | _ => cases result
  · rintro ⟨tokens, scanned, spelled⟩
    have ran : tokens.foldlM Reader.step Reader.start = some ⟨[], .nothing, value⟩ :=
      Reader.run_of_spells [] spelled
    rw [read?, scanned]
    show (tokens.foldlM Reader.step Reader.start).bind _ = _
    rw [ran]
    rfl

/-- A text is that of a value. -/
def IsText (cs : List Char) (value : Value) : Prop :=
  ∃ tokens, Lexes cs tokens ∧ Spells tokens value

/-- What is read is the value of a JSON text. -/
theorem isText_of_read {s : String} {value : Value} (h : read? s = some value) :
    IsText s.toList value := by
  obtain ⟨tokens, scanned, spelled⟩ := read?_eq_some_iff.1 h
  exact ⟨tokens, Token.scanUpTo_lexes scanned, spelled⟩

end Json

end FeatureGates
