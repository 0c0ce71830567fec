import FeatureGates.Failure
import FeatureGates.Number.Binary64
import FeatureGates.Text.Blank
import FeatureGates.Text.Digit

/-!
# Numerals

Reading and writing numbers as text. Digits of all scripts count. An
integer numeral may be surrounded by blanks, have a sign, single
underscores between its digits and, outside base ten, the mark of its own
base; in base ten it may have at most `digitLimit` digits, and no longer
integer is written.

`Decimal.scan?` takes the longest decimal numeral off the front of a text.
-/

namespace FeatureGates.Text

/-! Powers of natural numbers are the ones of core. -/

attribute [local instance (2000)] instPowNat

/-! ## Integers -/

/-- The most digits a decimal integer is read or written with. -/
def digitLimit : Nat := 4300

/-- The text of an integer, refused if it is too long. -/
def writeInt (n : Int) : Except Failure String :=
  if n.natAbs < 10 ^ digitLimit then .ok (toString n) else .error .numberTooLong

/-- Why a text is no integer numeral. -/
inductive NumeralFault where
  | malformed
  | tooLong (digits : Nat)
deriving DecidableEq

/-- A numeral with the blanks and digits of all scripts replaced by ASCII ones. -/
def plainNumeral (cs : List Char) : List Char :=
  cs.map fun c =>
    if c.toNat < 127 then c
    else if isBlank c then ' '
    else match digitValue? c with
      | some digit => Char.ofNat ('0'.toNat + digit)
      | none => '?'

/-- The value of an ASCII digit or letter digit below the radix. -/
def radixDigit? (radix : Nat) (c : Char) : Option Nat :=
  let code := c.toNat
  let digit? :=
    if '0' ≤ c ∧ c ≤ '9' then some (code - 48)
    else if 'a' ≤ c ∧ c ≤ 'f' then some (code - 87)
    else if 'A' ≤ c ∧ c ≤ 'F' then some (code - 55)
    else none
  digit?.filter (· < radix)

/-- Takes a sign off the front. -/
def signed : List Char → Bool × List Char
  | '-' :: rest => (true, rest)
  | '+' :: rest => (false, rest)
  | cs => (false, cs)

/-- The letter that marks a radix after a zero. -/
def radixMark : Nat → Option Char
  | 16 => some 'x'
  | 8 => some 'o'
  | 2 => some 'b'
  | _ => none

/-- Takes the mark of the radix off the front, and an underscore after it. -/
def dropRadixMark (radix : Nat) : List Char → List Char
  | '0' :: mark :: rest =>
    if radixMark radix = some mark.toLower then
      match rest with
      | '_' :: digits => digits
      | _ => rest
    else '0' :: mark :: rest
  | cs => cs

/-- No underscore at an end or beside another one. -/
def underscoresSeparate : List Char → Bool
  | [] => true
  | ['_'] => false
  | '_' :: '_' :: _ => false
  | _ :: rest => underscoresSeparate rest

/-- Reads an integer numeral in a radix. -/
def readInt (radix : Nat) (cs : List Char) : Except NumeralFault Int :=
  let (negative, unsigned) := signed (trim isAsciiBlank (plainNumeral cs))
  let body := dropRadixMark radix unsigned
  if body.isEmpty || body.head? == some '_' || !underscoresSeparate body then .error .malformed
  else
    match (body.filter (· != '_')).mapM (radixDigit? radix) with
    | none => .error .malformed
    | some digits =>
      if radix = 10 ∧ digitLimit < digits.length then .error (.tooLong digits.length)
      else
        let value : Int := valueOfDigits radix digits
        .ok (if negative then -value else value)

/-! ## Decimal numerals -/

/-- The longest run of digits at the front, as values, and what follows it. -/
def takeDigits : List Char → List Nat × List Char
  | [] => ([], [])
  | c :: rest =>
    match digitValue? c with
    | some digit =>
      let (digits, after) := takeDigits rest
      (digit :: digits, after)
    | none => ([], c :: rest)

/-- A decimal numeral: sign, digits before and after the point, exponent. -/
structure DecimalNumeral where
  negative : Bool
  whole : List Nat
  fraction : List Nat
  exponent : Int

namespace DecimalNumeral

/-- The number nearest to what the numeral denotes. -/
def toBinary64 (d : DecimalNumeral) : Binary64 :=
  .ofDecimal d.negative (valueOfDigits 10 (d.whole ++ d.fraction))
    (d.exponent - (d.fraction.length : Int))

/-- An exponent at the front of a text: a letter e, a sign and at least one digit. -/
def scanExponent (cs : List Char) : Int × List Char :=
  match cs with
  | c :: rest =>
    if c = 'e' ∨ c = 'E' then
      let (negative, unsigned) := signed rest
      match takeDigits unsigned with
      | ([], _) => (0, cs)
      | (digits, after) =>
        let value : Int := valueOfDigits 10 digits
        (if negative then -value else value, after)
    else (0, cs)
  | [] => (0, [])

/-- The longest decimal numeral at the front of a text, and what follows
it. There has to be a digit before the point or right after it. -/
def scan? (cs : List Char) : Option (DecimalNumeral × List Char) :=
  let (negative, unsigned) := signed cs
  let (whole, afterWhole) := takeDigits unsigned
  let (fraction, afterFraction) :=
    match afterWhole with
    | '.' :: rest => takeDigits rest
    | rest => ([], rest)
  if whole.isEmpty && fraction.isEmpty then none
  else
    let (exponent, rest) := scanExponent afterFraction
    some (⟨negative, whole, fraction, exponent⟩, rest)

end DecimalNumeral

/-- The number a text denotes if all of it is a decimal numeral. -/
def readDecimal? (cs : List Char) : Option Binary64 :=
  match DecimalNumeral.scan? cs with
  | some (numeral, []) => some numeral.toBinary64
  | _ => none

end FeatureGates.Text
