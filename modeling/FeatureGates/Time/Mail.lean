import FeatureGates.Text.Casing
import FeatureGates.Time.Calendar

/-!
# Dates of mail headers

A date as mail carries it: perhaps a weekday, then day, month name and
year in either order of the first two, a time and a zone. Reading is
lenient: the weekday is skipped unread, the three parts of the date may be
joined by dashes, the time may use points, time and year may be swapped,
and an unknown zone counts as universal time.

A number too large for its part of the date is a failure; any other fault
only means that the text is no date.
-/

namespace FeatureGates.Time.Mail

open FeatureGates.Text

abbrev Word := List Char

def monthNames : List String :=
  ["jan", "feb", "mar", "apr", "may", "jun", "jul", "aug", "sep", "oct", "nov", "dec",
    "january", "february", "march", "april", "may", "june", "july", "august", "september",
    "october", "november", "december"]

def dayNames : List String := ["mon", "tue", "wed", "thu", "fri", "sat", "sun"]

/-- The offsets of named zones, hours and minutes as one decimal number. -/
def zones : List (String × Int) :=
  [("UT", 0), ("UTC", 0), ("GMT", 0), ("Z", 0), ("AST", -400), ("ADT", -300), ("EST", -500),
    ("EDT", -400), ("CST", -600), ("CDT", -500), ("MST", -700), ("MDT", -600), ("PST", -800),
    ("PDT", -700)]

/-! ## Taking the text apart -/

/-- The maximal runs of characters outside a class; the first argument is
the run that is being read, in reverse. -/
def runs (p : Char → Bool) : Word → List Char → List Word
  | current, [] => if current.isEmpty then [] else [current.reverse]
  | current, c :: rest =>
    if p c then (if current.isEmpty then runs p [] rest else current.reverse :: runs p [] rest)
    else runs p (c :: current) rest

/-- The parts between the places where a character stands, empty ones too. -/
def splitAt (separator : Char) (cs : Word) : List Word := cs.splitOn separator

/-- The month number of a name in any case. -/
def month? (word : Word) : Option Nat :=
  let name := lower (String.ofList word)
  (monthNames.findIdx? (· = name)).map fun index => index % 12 + 1

/-- The words without the name of a weekday at the front. -/
def dropWeekday : List Word → List Word
  | [] => []
  | first :: rest =>
    if first.getLast? = some ',' ∨ dayNames.contains (lower (String.ofList first)) then rest
    else (first.reverse.takeWhile (· ≠ ',')).reverse :: rest

/-- Three words whose first joins day, month and year by dashes make five. -/
def splitDashed (words : List Word) : List Word :=
  match words with
  | [date, time, zone] =>
    match splitAt '-' date with
    | [day, month, year] => [day, month, year, time, zone]
    | _ => words
  | _ => words

/-- The place of the sign that divides a time from a zone: of the first
plus, or without one of the first minus. -/
def signIndex? (word : Word) : Option Nat :=
  (word.findIdx? (· = '+')).or (word.findIdx? (· = '-'))

/-- Four words lack a zone or have it joined to the time. -/
def splitZone (words : List Word) : List Word :=
  match words with
  | [day, month, year, time] =>
    match signIndex? time with
    | some (index + 1) => [day, month, year, time.take (index + 1), time.drop (index + 1)]
    | _ => [day, month, year, time, []]
  | _ => words

def dropComma (word : Word) : Word :=
  if word.getLast? = some ',' then word.dropLast else word

/-- Hour, minute and second words of a time with colons or with points. -/
def clockWords? (time : Word) : Option (Word × Word × Word) :=
  match splitAt ':' time with
  | [hour, minute] => some (hour, minute, ['0'])
  | [hour, minute, second] => some (hour, minute, second)
  | [_] =>
    match splitAt '.' time with
    | [hour, minute] => some (hour, minute, ['0'])
    | [hour, minute, second] => some (hour, minute, second)
    | _ => none
  | _ => none

/-! ## Reading the parts -/

/-- The parts of a date as they are written; they may name no day or time. -/
structure Parts where
  year : Int
  month : Nat
  day : Int
  hour : Int
  minute : Int
  second : Int
  /-- Offset in seconds, `none` if the text gives none. -/
  offset : Option Int

def int? (word : Word) : Option Int := (readInt 10 word).toOption

/-- Years below 100 lie between 1969 and 2068. -/
def fullYear (year : Int) : Int :=
  if year < 100 then (if year > 68 then year + 1900 else year + 2000) else year

/-- The zone as hours and minutes in one number. A negative zero and an unknown zone are none. -/
def zoneNumber? (zone : Word) : Option Int :=
  let name := asciiUpper (String.ofList zone)
  match zones.lookup name with
  | some number => some number
  | none =>
    match int? zone with
    | some 0 => if zone.head? = some '-' then none else some 0
    | number => number

/-- Seconds of hours and minutes in one number. -/
def zoneSeconds (number : Int) : Int :=
  let size := number.natAbs
  let seconds : Int := ((size / 100 * 3600 + size % 100 * 60 : Nat) : Int)
  if number < 0 then -seconds else seconds

/-- The day word and the month of the first two words in either order. -/
def dayAndMonth? (first second : Word) : Option (Word × Nat) :=
  match month? second with
  | some month => some (first, month)
  | none => (month? first).map fun month => (second, month)

/-- The parts of a date from day, month, year, time and zone words. The
year and the time change places if the year has a colon; then the year and
the zone do if the year does not begin with a digit. -/
def partsOf? (first second third fourth zone : Word) : Option Parts := do
  if first.isEmpty || second.isEmpty || third.isEmpty then none
  else
    let (dayWord, month) ← dayAndMonth? first second
    let swapped := match third.findIdx? (· = ':') with
      | some (_ + 1) => true
      | _ => false
    let (yearWord, timeWord) := if swapped then (fourth, third) else (third, fourth)
    let yearWord := dropComma yearWord
    let yearFirst ← yearWord.head?
    let (yearWord, zone) := if isDigitLike yearFirst then (yearWord, zone) else (zone, yearWord)
    if timeWord.isEmpty then none
    else
      let (hourWord, minuteWord, secondWord) ← clockWords? (dropComma timeWord)
      let year ← int? yearWord
      let day ← int? (dropComma dayWord)
      let hour ← int? hourWord
      let minute ← int? minuteWord
      let second ← int? secondWord
      some ⟨fullYear year, month, day, hour, minute, second, (zoneNumber? zone).map zoneSeconds⟩

/-- The parts of a date from a text. -/
def parts? (s : String) : Option Parts :=
  match splitZone (splitDashed (dropWeekday (runs isBlank [] s.toList))) with
  | first :: second :: third :: fourth :: zone :: _ => partsOf? first second third fourth zone
  | _ => none

/-! ## The instant -/

/-- A part has to fit a signed word of 32 bits. -/
def checkWord (n : Int) : Except Failure Unit :=
  if n < -0x8000000000000000 ∨ 0x8000000000000000 ≤ n then .error (.dateOutOfRange .beyondLong)
  else if n < -0x80000000 then .error (.dateOutOfRange .belowLeast)
  else if 0x80000000 ≤ n then .error (.dateOutOfRange .aboveGreatest)
  else .ok ()

/-- The days of an offset have to fit a signed word and then a bound of their own. -/
def checkOffset (seconds : Int) : Except Failure Unit :=
  let days := Int.fdiv seconds 86400
  if days < -0x80000000 ∨ 0x80000000 ≤ days then .error (.dateOutOfRange .offsetBeyondInt)
  else if 999999999 < days.natAbs then .error (.dateOutOfRange (.offsetDays days))
  else .ok ()

/-- A number of a date or clock as a natural number, `none` if it is negative. -/
def natural? (n : Int) : Option Nat := if 0 ≤ n then some n.toNat else none

/-- The instant of parts that name a day, a time and an offset of less than a day. -/
def Parts.instant? (p : Parts) : Option Instant := do
  let day ← dayNumber? (← natural? p.year) p.month (← natural? p.day)
  let time : TimeOfDay := ⟨← natural? p.hour, ← natural? p.minute, ← natural? p.second, 0⟩
  if time.isValid then some ⟨day, time, p.offset.getD 0 * 1000000⟩ else none

/-- The instant that a text names. The offset is looked at before the parts
of the date, and those in their order. -/
def read (s : String) : Except Failure (Option Instant) :=
  match parts? s with
  | none => .ok none
  | some p => do
    let offset := p.offset.getD 0
    checkOffset offset
    if !isOffset (offset * 1000000) then return none
    else
      [p.year, p.day, p.hour, p.minute, p.second].forM checkWord
      return p.instant?

end FeatureGates.Time.Mail
