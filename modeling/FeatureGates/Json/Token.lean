import FeatureGates.Text.Numeral
import FeatureGates.Value.Basic

/-!
# Tokens of JSON text

The lexical half of reading JSON. Beside the standard's literals the names
`NaN`, `Infinity` and `-Infinity` are numbers. Integers and floating-point
numbers are kept apart: a numeral with neither fraction nor exponent is an
integer, refused if it is longer than integers may be.

A lone half of a surrogate pair reads as the replacement character.
-/

namespace FeatureGates.Json

inductive Token where
  | scalar (value : Scalar)
  | openList
  | closeList
  | openRecord
  | closeRecord
  | comma
  | colon

namespace Token

def isSpace (c : Char) : Bool := c = ' ' || c = '\t' || c = '\n' || c = '\r'

/-! ## Strings -/

/-- The character of an escape of one letter. -/
def escaped? : Char → Option Char
  | '"' => some '"'
  | '\\' => some '\\'
  | '/' => some '/'
  | 'b' => some '\x08'
  | 'f' => some '\x0c'
  | 'n' => some '\n'
  | 'r' => some '\r'
  | 't' => some '\t'
  | _ => none

/-- The number of four hexadecimal digits. -/
def unit? (a b c d : Char) : Option Nat :=
  ([a, b, c, d].mapM (Text.radixDigit? 16)).map (Text.valueOfDigits 16)

/-- The character of two halves of a surrogate pair. -/
def ofPair? (high low : Nat) : Option Char :=
  if 0xD800 ≤ high ∧ high < 0xDC00 ∧ 0xDC00 ≤ low ∧ low < 0xE000 then
    some (Char.ofNat (0x10000 + (high - 0xD800) * 0x400 + (low - 0xDC00)))
  else none

/-- The character of one code unit. -/
def ofUnit (unit : Nat) : Char :=
  if 0xD800 ≤ unit ∧ unit < 0xE000 then '\ufffd' else Char.ofNat unit

/-- The rest of a string after its opening quote, and what follows it. -/
def scanString : List Char → Option (List Char × List Char)
  | [] => none
  | '"' :: rest => some ([], rest)
  | '\\' :: 'u' :: a :: b :: c :: d :: '\\' :: 'u' :: e :: f :: g :: h :: rest => do
    let unit ← unit? a b c d
    match (unit? e f g h).bind (ofPair? unit) with
    | some char =>
      let (chars, after) ← scanString rest
      some (char :: chars, after)
    | none =>
      let (chars, after) ← scanString ('\\' :: 'u' :: e :: f :: g :: h :: rest)
      some (ofUnit unit :: chars, after)
  | '\\' :: 'u' :: a :: b :: c :: d :: rest => do
    let unit ← unit? a b c d
    let (chars, after) ← scanString rest
    some (ofUnit unit :: chars, after)
  | '\\' :: letter :: rest => do
    let char ← escaped? letter
    let (chars, after) ← scanString rest
    some (char :: chars, after)
  | c :: rest =>
    if c.toNat < 32 ∨ c = '\\' then none
    else do
      let (chars, after) ← scanString rest
      some (c :: chars, after)

/-! ## Numbers -/

/-- Digits of a numeral: a lone zero or digits that do not begin with one. -/
def scanWhole (cs : List Char) : Option (List Char × List Char) :=
  match cs with
  | '0' :: rest => some (['0'], rest)
  | _ =>
    match cs.takeWhile Char.isDigit with
    | [] => none
    | digits => some (digits, cs.dropWhile Char.isDigit)

/-- A fraction, a point and at least one digit, if there is one. -/
def scanFraction (cs : List Char) : Option (List Char) × List Char :=
  match cs with
  | '.' :: rest =>
    match rest.takeWhile Char.isDigit with
    | [] => (none, cs)
    | digits => (some digits, rest.dropWhile Char.isDigit)
  | _ => (none, cs)

/-- An exponent with its sign and at least one digit, if there is one. -/
def scanPower (cs : List Char) : Option Int × List Char :=
  match cs with
  | mark :: rest =>
    if mark = 'e' ∨ mark = 'E' then
      let (negative, unsigned) := Text.signed rest
      match unsigned.takeWhile Char.isDigit with
      | [] => (none, cs)
      | digits =>
        let value : Int := Text.valueOfDigits 10 (digits.filterMap Text.digitValue?)
        (some (if negative then -value else value), unsigned.dropWhile Char.isDigit)
    else (none, cs)
  | [] => (none, cs)

/-- The number of a numeral whose parts have been taken apart. -/
def numeral (negative : Bool) (whole : List Char) (fraction : Option (List Char))
    (power : Option Int) : Option Number :=
  let digits (cs : List Char) := cs.filterMap Text.digitValue?
  match fraction, power with
  | none, none =>
    if Text.digitLimit < whole.length then none
    else
      let value : Int := Text.valueOfDigits 10 (digits whole)
      some (.int (if negative then -value else value))
  | _, _ =>
    some (.float
      (Text.DecimalNumeral.mk negative (digits whole) (digits (fraction.getD []))
        (power.getD 0)).toBinary64)

def scanNumber (cs : List Char) : Option (Number × List Char) := do
  let (negative, unsigned) :=
    match cs with
    | '-' :: rest => (true, rest)
    | _ => (false, cs)
  if "Infinity".toList.isPrefixOf unsigned then
    some (.float (.infinite negative), unsigned.drop 8)
  else
    let (whole, afterWhole) ← scanWhole unsigned
    let (fraction, afterFraction) := scanFraction afterWhole
    let (power, rest) := scanPower afterFraction
    some (← numeral negative whole fraction power, rest)

/-! ## Tokens -/

def words : List (List Char × Scalar) :=
  [("null".toList, .null), ("true".toList, .bool true), ("false".toList, .bool false),
    ("NaN".toList, .number (.float .nan))]

/-- The token at the front of a text that does not begin with a space. -/
def scan (cs : List Char) : Option (Token × List Char) :=
  match cs with
  | '[' :: rest => some (.openList, rest)
  | ']' :: rest => some (.closeList, rest)
  | '\x7b' :: rest => some (.openRecord, rest)
  | '\x7d' :: rest => some (.closeRecord, rest)
  | ',' :: rest => some (.comma, rest)
  | ':' :: rest => some (.colon, rest)
  | '"' :: rest => do
    let (chars, after) ← scanString rest
    some (.scalar (.text (String.ofList chars)), after)
  | _ =>
    match words.find? fun word => word.1.isPrefixOf cs with
    | some (word, value) => some (.scalar value, cs.drop word.length)
    | none => do
      let (number, rest) ← scanNumber cs
      some (.scalar (.number number), rest)

/-- The tokens of a text, at most `fuel` of them. -/
def scanUpTo : Nat → List Char → Option (List Token)
  | 0, cs => if (cs.dropWhile isSpace).isEmpty then some [] else none
  | fuel + 1, cs =>
    match cs.dropWhile isSpace with
    | [] => some []
    | rest => do
      let (token, after) ← scan rest
      return token :: (← scanUpTo fuel after)

/-- The tokens of a text; every one takes at least one character. -/
def scanAll (cs : List Char) : Option (List Token) := scanUpTo cs.length cs

end Token

end FeatureGates.Json
