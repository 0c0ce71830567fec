import FeatureGates.Proofs.Decoding
import FeatureGates.Proofs.Effects
import FeatureGates.Proofs.TextReading
import Mathlib.Data.List.Nodup

/-!
# Values and their texts

A truth value or a number that is compared or stored counts as its text
(`Raw.PrintedAs`). No two are printed alike (`Raw.PrintedAs.unique`): a text is
one of a few words, or it is read back, by expressions, as the number.

The gates read a text in ways of their own, so that a value and its text need
not have the same typed value. They have, or the text is misread
(`Raw.PrintedAs.typed_cases`). It is where a truth value is kept and the value
is the floating-point one, and for a percentage if the text of a floating-point
number has no point, as it is with `1e-05`, `inf` and `nan` (`Raw.Misread`).
-/

namespace FeatureGates

/-! Powers of natural numbers are the ones of core. -/

attribute [local instance (2000)] instPowNat

/-! The unit is not to be computed where terms are compared. -/

attribute [local irreducible] unitsPerOne

/-! ## Texts of values -/

namespace Number

theorem eq_symm {a b : Number} (h : a.eq b = true) : b.eq a = true := by
  obtain ⟨p, ha, hb⟩ := positions_of_eq h
  simp only [Number.eq, ha, hb, decide_true]

theorem int_eq_iff {m n : Int} : (int m).eq (int n) = true ↔ m = n := by
  constructor
  · intro equal
    obtain ⟨p, left, right⟩ := positions_of_eq equal
    have place : m * (unitsPerOne : Int) = n * unitsPerOne :=
      Position.at.inj (Option.some.inj (left.trans right.symm))
    exact Int.eq_of_mul_eq_mul_right (Int.natCast_ne_zero.2 (Nat.ne_of_gt unitsPerOne_pos)) place
  · rintro rfl
    exact (eq_self_iff _).2 rfl

end Number

namespace Json

/-- JSON text of a record begins with its brace, or with white space. -/
theorem exists_brace {cs : List Char} {entries : Entries} (h : IsText cs (.record entries)) :
    ∃ c rest, cs = c :: rest ∧ (Token.isSpace c = true ∨ c = '\x7b') := by
  obtain ⟨tokens, lexed, spelled⟩ := h
  obtain ⟨others, rfl⟩ : ∃ others, tokens = .openRecord :: others := by
    cases spelled <;> exact ⟨_, rfl⟩
  cases lexed with
  | @cons spaces lexeme rest _ _ space brace =>
    cases brace
    cases spaces with
    | nil => exact ⟨'\x7b', rest, rfl, .inr rfl⟩
    | cons c spaces => exact ⟨c, _, rfl, .inl (space c List.mem_cons_self)⟩

end Json

namespace Raw

open Text

/-- A truth value or a number, and its text in comparable form. -/
inductive PrintedAs : Value → String → Prop
  | bool (b : Bool) : PrintedAs (.bool b) (if b then "true" else "false")
  | number {n : Number} {s : String} : n.written = .ok s → PrintedAs (.number n) s

/-- The values whose texts are words. -/
def words : List (Value × String) :=
  [(.bool true, "true"), (.bool false, "false"), (.float .nan, "nan"),
    (.float (.infinite false), "inf"), (.float (.infinite true), "-inf")]

namespace PrintedAs

variable {v w : Value} {s : String}

/-- A text is a word, or it is read by expressions as the number whose text it is. -/
theorem number_or_word (h : PrintedAs v s) :
    (∃ n : Number, v = .number n ∧ n.isNaN = false ∧ readNumber s = n) ∨ (v, s) ∈ words := by
  cases h with
  | bool b => cases b <;> simp [words]
  | @number n _ written =>
    cases n with
    | int n => exact .inl ⟨.int n, rfl, rfl, readNumber_writeInt written⟩
    | float x =>
      cases written
      cases x with
      | nan => exact .inr (by simp [words, Binary64.written])
      | infinite negative => exact .inr (by cases negative <;> simp [words, Binary64.written])
      | finite negative m => exact .inl ⟨_, rfl, rfl, readNumber_written negative m⟩

/-- No two values are printed alike. -/
theorem unique (hv : PrintedAs v s) (hw : PrintedAs w s) : v = w := by
  have nan : ∀ entry ∈ words, (readNumber entry.2).isNaN = true := by decide +kernel
  rcases hv.number_or_word with ⟨n, rfl, number, own⟩ | word <;>
    rcases hw.number_or_word with ⟨m, rfl, number', own'⟩ | word'
  · rw [own.symm.trans own']
  · cases number.symm.trans (own ▸ nan _ word')
  · cases number'.symm.trans (own' ▸ nan _ word)
  · have distinct : (words.map (·.2)).Nodup := by decide
    exact congrArg Prod.fst (List.inj_on_of_nodup_map distinct word word' rfl)

/-- A text begins with a letter, a digit or a sign. -/
theorem exists_cons (h : PrintedAs v s) :
    ∃ c cs, s.toList = c :: cs ∧ Json.Token.isSpace c = false ∧ c ≠ '\x7b' := by
  have all : numeralChars.all (fun c => decide (Json.Token.isSpace c = false ∧ c ≠ '\x7b')) =
      true := by decide
  have plain (c : Char) (mem : c ∈ numeralChars) : Json.Token.isSpace c = false ∧ c ≠ '\x7b' :=
    of_decide_eq_true (List.all_eq_true.1 all c mem)
  have behind (negative : Bool) {c : Char} (cs : List Char) (digit : c.isDigit = true) :
      ∃ d ds, signMark negative ++ c :: cs = d :: ds ∧ Json.Token.isSpace d = false ∧
        d ≠ '\x7b' := by
    cases negative with
    | true => exact ⟨'-', c :: cs, rfl, plain '-' (by decide)⟩
    | false => exact ⟨c, cs, rfl, plain c (mem_numeralChars_of_isDigit digit)⟩
  cases h with
  | bool b => cases b <;> exact ⟨_, _, rfl, by decide⟩
  | @number n _ written =>
    cases n with
    | int n =>
      have written : writeInt n = .ok s := written
      unfold writeInt at written
      split at written
      · cases written
        obtain ⟨c, cs, digits, digit⟩ := toDigits_eq_cons n.natAbs
        rw [toList_toString_int, digits]
        exact behind _ cs digit
      · cases written
    | float x =>
      cases written
      cases x with
      | nan => exact ⟨'n', _, rfl, by decide⟩
      | infinite negative => cases negative <;> exact ⟨_, _, rfl, by decide⟩
      | finite negative m =>
        obtain ⟨c, cs, text, digit⟩ := m.text_eq_cons
        rw [Binary64.toList_written, text]
        exact behind negative cs digit

/-- No text of a value is an expression. -/
theorem toExpression_text (h : PrintedAs v s) : toExpression (.text s) = none := by
  cases read : toExpression (.text s) with
  | none => rfl
  | some entries =>
    obtain ⟨c, cs, text, solid, other⟩ := h.exists_cons
    obtain ⟨d, ds, text', open_⟩ := Json.exists_brace (isText_of_toExpression read).2
    cases text.symm.trans text'
    rcases open_ with space | brace
    · cases solid.symm.trans space
    · exact absurd brace other

end PrintedAs

/-! ## Reading a value and its text -/

/-- The second is the text of the first and the gates of a kind read it otherwise than the first,
or it is a text that they cannot read. -/
inductive Misread : DataType → Value → Value → Prop
  /-- One is true. The text of the floating-point one, `1.0`, is not. -/
  | one {x : Binary64} : (Number.float x).eq (.int 1) = true →
    Misread .boolean (.float x) (.text x.written)
  /-- Of a text without a point no more is read than an integer at its front. -/
  | pointless {x : Binary64} : '.' ∉ x.written.toList →
    Misread .number (.float x) (.text x.written)
  /-- No text with so long an integer is read. -/
  | overlong {v : Value} {s : String} : IsOverlong s → Misread .number v (.text s)

theorem exists_text_of_misread {kind : DataType} {v w : Value} (h : Misread kind v w) :
    ∃ s, w = .text s := by
  cases h <;> exact ⟨_, rfl⟩

theorem misread_boolean_iff {v w : Value} : Misread .boolean v w ↔
    ∃ x : Binary64, v = .float x ∧ w = .text x.written ∧ (Number.float x).eq (.int 1) = true := by
  constructor
  · rintro ⟨one⟩
    exact ⟨_, rfl, rfl, one⟩
  · rintro ⟨x, rfl, rfl, one⟩
    exact .one one

theorem misread_number_iff {v : Value} {s : String} : Misread .number v (.text s) ↔
    IsOverlong s ∨ ∃ x : Binary64, v = .float x ∧ s = x.written ∧ '.' ∉ s.toList := by
  constructor
  · generalize text : Value.text s = w
    rintro (_ | pointless | overlong)
    · cases text
      exact .inr ⟨_, rfl, rfl, pointless⟩
    · cases text
      exact .inl overlong
  · rintro (overlong | ⟨x, rfl, rfl, pointless⟩)
    · exact .overlong overlong
    · exact .pointless pointless

/-- A text that is true is `true` or `1`: to expressions it is no number, or it is one. -/
theorem readNumber_of_toBool {s : String} (h : toBool (.text s) = true) :
    readNumber s = .float .nan ∨ readNumber s = .int 1 := by
  have words : s = "true" ∨ s = "1" := by simpa [toBool] using h
  rcases words with rfl | rfl
  · exact .inl (by decide +kernel)
  · exact .inr (by decide +kernel)

/-- An integer is true just if its text is. -/
theorem toBool_text_writeInt {n : Int} {s : String} (h : writeInt n = .ok s) :
    toBool (.text s) = toBool (.int n) := by
  have read := readNumber_writeInt h
  have text : toBool (.text s) = true ↔ n = 1 := by
    constructor
    · intro true
      rcases readNumber_of_toBool true with word | one
      · cases read.symm.trans word
      · exact Number.int.inj (read.symm.trans one)
    · rintro rfl
      have written : writeInt 1 = .ok "1" := by decide +kernel
      obtain rfl : "1" = s := Except.ok.inj (written.symm.trans h)
      rfl
  exact Bool.eq_iff_iff.2 (text.trans Number.int_eq_iff.symm)

/-- No floating-point number has a true text. -/
theorem toBool_text_written (x : Binary64) : toBool (.text x.written) = false := by
  cases x with
  | nan => rfl
  | infinite negative => cases negative <;> rfl
  | finite negative m =>
    have read := readNumber_written negative m
    refine Bool.eq_false_iff.2 fun true => ?_
    rcases readNumber_of_toBool true with word | one
    · cases read.symm.trans word
    · cases read.symm.trans one

/-- The text of a floating-point number has a number, and without a point it has another one. -/
theorem toNumber_text_written (x : Binary64) : ∃ q, toNumber (.text x.written) = .ok q ∧
    (q = .float x ∧ '.' ∈ x.written.toList ∨
      q ≠ .float x ∧ q.eq (.float x) = false ∧ '.' ∉ x.written.toList) := by
  cases x with
  | nan => exact ⟨.int 0, rfl, .inr ⟨nofun, rfl, by decide⟩⟩
  | infinite negative =>
    refine ⟨.int 0, by cases negative <;> rfl, .inr ⟨nofun, by cases negative <;> rfl, ?_⟩⟩
    cases negative <;> decide
  | finite negative m =>
    by_cases point : '.' ∈ (Binary64.finite negative m).written.toList
    · exact ⟨_, leadingNumber_of_point point, .inl ⟨rfl, point⟩⟩
    · obtain ⟨q, read, same⟩ := leadingNumber_written negative m
      have other : q.eq (.float (.finite negative m)) = false :=
        Bool.eq_false_iff.2 fun equal => point (same.1 equal)
      refine ⟨q, read, .inr ⟨?_, other, point⟩⟩
      rintro rfl
      cases other.symm.trans ((Number.eq_self_iff _).2 rfl)

theorem not_isOverlong {s : String} {q : Number} (h : toNumber (.text s) = .ok q) :
    ¬IsOverlong s := by
  rcases toNumber_text_cases s with ⟨-, digits, -, error⟩ | ⟨short, -⟩
  · cases h.symm.trans error
  · exact short

end Raw

/-! ## Typed values that agree -/

/-- The same value, or an equal one. NaN, which equals nothing, agrees with itself. -/
def Value.Agrees (a b : Value) : Prop := a = b ∨ a.equals b = true

/-- The values of all gates agree. -/
def GateValues.Agrees (v w : GateValues) : Prop := ∀ gate, (v.get gate).Agrees (w.get gate)

namespace Value

theorem agrees_self (a : Value) : a.Agrees a := .inl rfl

theorem not_agrees_number {q n : Number} (other : q ≠ n) (apart : q.eq n = false) :
    ¬(number q).Agrees (number n) := by
  rintro (same | equal)
  · cases same
    exact other rfl
  · have equal : q.eq n = true := by
      simpa [Value.equals, Scalar.equals, Scalar.asNumber?] using equal
    cases apart.symm.trans equal

theorem not_agrees_bool {b c : Bool} (other : b ≠ c) : ¬(bool b).Agrees (bool c) := by
  rintro (same | equal)
  · cases same
    exact other rfl
  · have apart : (bool b).equals (bool c) = decide (b = c) := by
      cases b <;> cases c <;> decide +kernel
    rw [apart] at equal
    exact other (of_decide_eq_true equal)

end Value

namespace Raw

variable {v : Value} {s : String}

namespace PrintedAs

theorem toBool_cases (h : PrintedAs v s) :
    toBool v = toBool (.text s) ∧ ¬Misread .boolean v (.text s) ∨
      toBool v ≠ toBool (.text s) ∧ Misread .boolean v (.text s) := by
  cases h with
  | bool b =>
    refine .inl ⟨by cases b <;> rfl, fun misread => ?_⟩
    obtain ⟨x, own, -⟩ := misread_boolean_iff.1 misread
    cases own
  | @number n _ written =>
    cases n with
    | int n =>
      refine .inl ⟨(toBool_text_writeInt written).symm, fun misread => ?_⟩
      obtain ⟨x, own, -⟩ := misread_boolean_iff.1 misread
      cases own
    | float x =>
      cases written
      rw [toBool_text_written]
      by_cases one : (Number.float x).eq (.int 1) = true
      · exact .inr ⟨fun closed => Bool.false_ne_true (closed.symm.trans one), .one one⟩
      · refine .inl ⟨Bool.eq_false_iff.2 one, fun misread => ?_⟩
        obtain ⟨x', own, -, one'⟩ := misread_boolean_iff.1 misread
        cases own
        exact one one'

theorem toNumber_cases (h : PrintedAs v s) :
    ∃ n q, toNumber v = .ok n ∧ toNumber (.text s) = .ok q ∧
      (n = q ∧ ¬Misread .number v (.text s) ∨
        n ≠ q ∧ n.eq q = false ∧ q.eq n = false ∧ Misread .number v (.text s)) := by
  have plain {q : Number} (read : toNumber (.text s) = .ok q)
      (whole : ∀ x : Binary64, v = .float x → '.' ∈ s.toList) : ¬Misread .number v (.text s) := by
    intro misread
    rcases misread_number_iff.1 misread with overlong | ⟨x, own, -, point⟩
    · exact not_isOverlong read overlong
    · exact point (whole x own)
  cases h with
  | bool b =>
    have read : toNumber (.text (if b then "true" else "false")) = .ok (.int 0) := by
      cases b <;> rfl
    exact ⟨_, _, rfl, read, .inl ⟨rfl, plain read (by rintro _ ⟨⟩)⟩⟩
  | @number n _ written =>
    cases n with
    | int n =>
      have read : toNumber (.text s) = .ok (.int n) := leadingNumber_of_writeInt written
      exact ⟨_, _, rfl, read, .inl ⟨rfl, plain read (by rintro _ ⟨⟩)⟩⟩
    | float x =>
      cases written
      obtain ⟨q, read, ⟨rfl, point⟩ | ⟨other, unequal, point⟩⟩ := toNumber_text_written x
      · exact ⟨_, _, rfl, read, .inl ⟨rfl, plain read fun _ _ => point⟩⟩
      · refine ⟨_, _, rfl, read, .inr ⟨other.symm, ?_, unequal, .pointless point⟩⟩
        refine Bool.eq_false_iff.2 fun equal => ?_
        cases unequal.symm.trans (Number.eq_symm equal)

theorem not_misread {kind : DataType} (h : PrintedAs v s) : ¬Misread kind (.text s) v := by
  intro misread
  obtain ⟨t, rfl⟩ := exists_text_of_misread misread
  cases h

/-- The typed values of a value and of its text are the same, or the text is misread. -/
theorem typed_cases (h : PrintedAs v s) (gate : Gate) :
    ∃ a b, typed gate v = .ok a ∧ typed gate (.text s) = .ok b ∧
      (a = b ∧ ¬Misread gate.dataType v (.text s) ∨
        ¬a.Agrees b ∧ ¬b.Agrees a ∧ Misread gate.dataType v (.text s)) := by
  unfold typed
  cases gate.dataType with
  | boolean =>
    refine ⟨_, _, rfl, rfl, ?_⟩
    rcases h.toBool_cases with ⟨same, read⟩ | ⟨other, misread⟩
    · exact .inl ⟨congrArg Value.bool same, read⟩
    · exact .inr ⟨Value.not_agrees_bool other, Value.not_agrees_bool other.symm, misread⟩
  | set => cases h <;> exact ⟨_, _, rfl, rfl, .inl ⟨rfl, nofun⟩⟩
  | document =>
    simp only [h.toExpression_text]
    cases h <;> exact ⟨_, _, rfl, rfl, .inl ⟨rfl, nofun⟩⟩
  | number =>
    obtain ⟨n, q, own, read, ⟨rfl, plain⟩ | ⟨other, left, right, misread⟩⟩ := h.toNumber_cases
    · exact ⟨_, _, congrArg (Except.map Value.number) own, congrArg (Except.map Value.number) read,
        .inl ⟨rfl, plain⟩⟩
    · exact ⟨_, _, congrArg (Except.map Value.number) own, congrArg (Except.map Value.number) read,
        .inr ⟨Value.not_agrees_number other left, Value.not_agrees_number other.symm right,
          misread⟩⟩

end PrintedAs

end Raw

end FeatureGates
