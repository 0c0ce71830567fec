import FeatureGates.Text.Numeral
import FeatureGates.Time.Calendar
import FeatureGates.Value.Basic

/-!
# Plain scalars of YAML

What an unquoted scalar stands for, by its form: null, a truth value, an
integer in base two, eight, ten, sixteen or sixty, a floating-point number,
a date, or else a text.

Underscores in numbers do not count. A number or a date of the right form
can still have no value, and the lone equals sign has no meaning at all.
-/

namespace FeatureGates.Yaml

def isDigit (c : Char) : Bool := '0' ≤ c && c ≤ '9'

def isDigitOrMark (c : Char) : Bool := isDigit c || c = '_'

/-! ## Integers -/

/-- The integer with some digits and underscores; there has to be a digit,
and not too many in base ten. -/
def digitsValue (radix : Nat) (cs : List Char) : Except Failure Nat :=
  let digits := (cs.filter (· ≠ '_')).filterMap (Text.radixDigit? radix)
  if digits.isEmpty then .error .wrongValue
  else if radix = 10 && Text.digitLimit < digits.length then
    .error (.numeralTooLong digits.length)
  else .ok (Text.valueOfDigits radix digits)

/-- The parts of a text between colons. -/
def colonParts : List Char → List (List Char)
  | [] => [[]]
  | c :: rest =>
    match colonParts rest with
    | first :: others => if c = ':' then [] :: first :: others else (c :: first) :: others
    | [] => [[c]]

/-- A place of a number in base sixty after the first. -/
def isPlace : List Char → Bool
  | [c] => isDigit c
  | [c, d] => '0' ≤ c && c ≤ '5' && isDigit d
  | _ => false

/-- The value of places in base sixty, the first of any size. -/
def placesValue (parts : List (List Char)) : Except Failure Nat := do
  return (← parts.mapM (digitsValue 10)).foldl (fun total place => 60 * total + place) 0

/-- Whether an unsigned text has the form of an integer, and its value then. -/
def natural? (cs : List Char) : Option (Except Failure Nat) :=
  match cs with
  | '0' :: 'b' :: digits =>
    if !digits.isEmpty && digits.all (fun c => c = '_' || (Text.radixDigit? 2 c).isSome) then
      some (digitsValue 2 digits)
    else none
  | '0' :: 'x' :: digits =>
    if !digits.isEmpty && digits.all (fun c => c = '_' || (Text.radixDigit? 16 c).isSome) then
      some (digitsValue 16 digits)
    else none
  | '0' :: digits =>
    if digits.all fun c => c = '_' || (Text.radixDigit? 8 c).isSome then
      some (digitsValue 8 ('0' :: digits))
    else none
  | _ =>
    match colonParts cs with
    | (c :: first) :: places =>
      if isDigit c && first.all isDigitOrMark && places.all isPlace then
        some (placesValue ((c :: first) :: places))
      else none
    | _ => none

def integer? (cs : List Char) : Option (Except Failure Int) :=
  let (negative, unsigned) := Text.signed cs
  (natural? unsigned).map fun value =>
    value.map fun n => if negative then -(n : Int) else n

/-! ## Floating-point numbers -/

/-- Nothing, or a letter e with a sign and digits. -/
def isPower : List Char → Bool
  | [] => true
  | e :: sign :: digits =>
    (e = 'e' || e = 'E') && (sign = '-' || sign = '+') && !digits.isEmpty && digits.all isDigit
  | _ => false

/-- What stands before the point of a number in base sixty. -/
def isPlaces (cs : List Char) : Bool :=
  match colonParts cs with
  | (c :: first) :: place :: places =>
    isDigit c && first.all isDigitOrMark && (place :: places).all isPlace
  | _ => false

/-- The number that a text without underscores denotes. -/
def decimalValue (negative : Bool) (cs : List Char) : Binary64 :=
  let sign := if negative then ['-'] else []
  (Text.readDecimal? (sign ++ cs.filter (· ≠ '_'))).getD .nan

/-- Whether a text has the form of a floating-point number, and its value then. -/
def float? (cs : List Char) : Option (Except Failure Binary64) :=
  let (negative, unsigned) := Text.signed cs
  let isSigned := unsigned.length < cs.length
  let whole := unsigned.takeWhile (· ≠ '.')
  match unsigned.drop whole.length with
  | _ :: after =>
    let fraction := after.takeWhile isDigitOrMark
    let power := after.drop fraction.length
    if [".inf", ".Inf", ".INF"].contains (String.ofList unsigned) then
      some (.ok (.infinite negative))
    else if [".nan", ".NaN", ".NAN"].contains (String.ofList cs) then some (.ok .nan)
    else if isPlaces whole && power.isEmpty then
      some do
        let total ← placesValue (colonParts whole)
        return decimalValue negative ((toString total).toList ++ '.' :: fraction)
    else
      let isForm := match whole with
        | [] => !isSigned && (fraction.head?.map isDigit).getD false
        | c :: rest => isDigit c && rest.all isDigitOrMark
      if isForm && isPower power then some (.ok (decimalValue negative unsigned)) else none
  | [] => none

/-! ## Dates -/

/-- Whether a text has the form of a date, and then, if there is such a
day, the date as a thing of its own. -/
def date? (cs : List Char) : Option (Except Failure Value) :=
  match cs with
  | [y1, y2, y3, y4, '-', m1, m2, '-', d1, d2] =>
    match [y1, y2, y3, y4, m1, m2, d1, d2].mapM (Text.radixDigit? 10) with
    | some [y1, y2, y3, y4, m1, m2, d1, d2] =>
      let year := Text.valueOfDigits 10 [y1, y2, y3, y4]
      some (match Time.dayNumber? year (10 * m1 + m2) (10 * d1 + d2) with
        | some day => .ok (.object [("day", .int day)])
        | none => .error .wrongValue)
    | _ => none
  | _ => none

/-! ## All forms -/

def words : List (List String × Value) :=
  [(["", "~", "null", "Null", "NULL"], .null),
    (["yes", "Yes", "YES", "true", "True", "TRUE", "on", "On", "ON"], .bool true),
    (["no", "No", "NO", "false", "False", "FALSE", "off", "Off", "OFF"], .bool false)]

/-- What a plain scalar stands for. -/
def plainValue (text : String) : Except Failure Value :=
  let cs := text.toList
  match words.find? (·.1.contains text), float? cs, integer? cs, date? cs with
  | some word, _, _, _ => .ok word.2
  | none, some value, _, _ => do return .float (← value)
  | none, none, some value, _ => do return .int (← value)
  | none, none, none, some value => value
  | none, none, none, none =>
    if text = "=" then .error (.config .unparsable) else .ok (.text text)

end FeatureGates.Yaml
