import FeatureGates.Time.Calendar

/-!
# ISO 8601 instants

A date in calendar or week form, with or without dashes, then one
character of any kind, then a time in pairs of digits, with or without
colons, a fraction of any length, and an offset or `Z`.

Where a date ends is decided first, from the characters at fixed places
(`dateLength`). Before an offset the time may be followed by anything that
begins with neither a sign nor `Z`; at the end of the text it may not.

Texts are read as the bytes of their UTF-8 form, so places count bytes.
-/

namespace FeatureGates.Time.Iso

/-! Powers of natural numbers are the ones of core. -/

attribute [local instance (2000)] instPowNat

/-- The character at the front, a null character at the end of the text. -/
def peek (cs : List Char) : Char := cs.headD '\x00'

/-- The number of exactly `n` ASCII digits at the front, and what follows them. -/
def digits? (n : Nat) (cs : List Char) : Option (Nat × List Char) :=
  let front := cs.take n
  if front.length = n ∧ front.all Char.isDigit then
    some (front.foldl (fun value c => 10 * value + (c.toNat - '0'.toNat)) 0, cs.drop n)
  else none

/-! ## Where the date ends -/

/-- The length of the date in a text of at least seven bytes. -/
def dateLength? (cs : List Char) : Option Nat :=
  let length := cs.length
  let at? (i : Nat) := cs[i]?.getD '\x00'
  if length = 7 then some 7
  else if at? 4 = '-' then
    if at? 5 = 'W' then
      if length > 8 ∧ at? 8 = '-' then
        if length = 9 then none
        else if length > 10 ∧ (at? 10).isDigit then some 8
        else some 10
      else some 8
    else some 10
  else if at? 4 = 'W' then
    let stop := 7 + ((cs.drop 7).takeWhile Char.isDigit).length
    if stop < 9 then some stop
    else if stop % 2 = 0 then some 7
    else some 8
  else some 8

/-! ## Dates -/

/-- Takes a dash off the front where dates are written with dashes. -/
def dash? (dashed : Bool) (cs : List Char) : Option (List Char) :=
  if dashed then (if peek cs = '-' then some (cs.drop 1) else none) else some cs

/-- The day number of the date at the front, which has the given length. -/
def date? (length : Nat) (cs : List Char) : Option Int := do
  let (year, afterYear) ← digits? 4 cs
  let dashed := peek afterYear = '-'
  let rest := if dashed then afterYear.drop 1 else afterYear
  if peek rest = 'W' then
    let (week, afterWeek) ← digits? 2 (rest.drop 1)
    let consumed := 7 + (if dashed then 1 else 0)
    if consumed < length then
      let (day, _) ← digits? 1 (← dash? dashed afterWeek)
      weekDayNumber? year week day
    else weekDayNumber? year week 1
  else
    let (month, afterMonth) ← digits? 2 rest
    let (day, _) ← digits? 2 (← dash? dashed afterMonth)
    dayNumber? year month day

/-! ## Times -/

/-- How the pairs of digits of a time end: at the end of the part they
stand in, with or without a stray character, or before a fraction. -/
inductive PairsEnd where
  | finished (stray : Bool)
  | fraction (rest : List Char) (left : Int)

/-- Up to `count` pairs of digits. The first character after the first
pair decides whether colons stand between them. `left` is how much of the
part is left. -/
def pairs? : Nat → Option Bool → List Char → Int → Option (List Nat × PairsEnd)
  | 0, _, cs, left => some ([], .fraction cs left)
  | count + 1, colons, cs, left => do
    let (value, rest) ← digits? 2 cs
    let next := peek rest
    let withColons := colons.getD (next = ':')
    if left - 3 ≤ 0 then some ([value], .finished (next ≠ '\x00'))
    else if withColons ∧ next = ':' then
      let (values, ending) ← pairs? count (some withColons) (rest.drop 1) (left - 3)
      some (value :: values, ending)
    else if next = '.' ∨ next = ',' then some ([value], .fraction (rest.drop 1) (left - 3))
    else if !withColons then
      let (values, ending) ← pairs? count (some withColons) rest (left - 2)
      some (value :: values, ending)
    else none

/-- Microseconds of a fraction of a second, and whether a character other
than a digit follows it. -/
def fraction? (cs : List Char) (left : Int) : Option (Nat × Bool) := do
  let count := min 6 left.toNat
  let (value, rest) ← digits? count cs
  some (value * 10 ^ (6 - count), peek (rest.dropWhile Char.isDigit) ≠ '\x00')

/-- A time of day in a part of the text of length `left`, and whether
something is left over. -/
def time? (cs : List Char) (left : Int) : Option (TimeOfDay × Bool) := do
  let (values, ending) ← pairs? 3 none cs left
  let (microsecond, stray) ←
    match ending with
    | .finished stray => some (0, stray)
    | .fraction rest left => fraction? rest left
  some (⟨values[0]?.getD 0, values[1]?.getD 0, values[2]?.getD 0, microsecond⟩, stray)

/-- The offset after its sign, in microseconds. Its parts may exceed those
of a clock; one of no whole seconds is none. -/
def offset? (negative : Bool) (cs : List Char) : Option Int := do
  let (t, stray) ← time? cs cs.length
  if stray then none
  else
    let seconds : Int := (((t.hour * 60 + t.minute) * 60 + t.second : Nat) : Int)
    let size := if seconds = 0 then 0 else seconds * 1000000 + (t.microsecond : Int)
    let offset := if negative then -size else size
    if isOffset offset then some offset else none

/-- A time of day and an offset from what follows the date and one character. -/
def timeAndOffset? (cs : List Char) : Option (TimeOfDay × Int) := do
  let isMark (c : Char) := c = '+' || c = '-' || c = 'Z'
  let clock := cs.takeWhile fun c => !isMark c
  let (time, stray) ← time? cs clock.length
  match cs.drop clock.length with
  | [] => if stray then none else some (time, 0)
  | 'Z' :: rest => if peek rest = '\x00' then some (time, 0) else none
  | mark :: rest => do
    let offset ← offset? (mark = '-') rest
    some (time, offset)

/-- The number of bytes of the character that a byte begins. -/
def widthOf (c : Char) : Nat :=
  if c.toNat < 0x80 then 1
  else if c.toNat / 16 = 14 then 3
  else if c.toNat / 16 = 15 then 4
  else 2

/-- The instant that the bytes of a text name. -/
def ofBytes? (cs : List Char) : Option Instant := do
  if cs.length < 7 then none
  else
    let length ← dateLength? cs
    let day ← date? length cs
    let rest := cs.drop length
    if rest.isEmpty then some ⟨day, .midnight, 0⟩
    else
      let (time, offset) ← timeAndOffset? (rest.drop (widthOf (peek rest)))
      if time.isValid then some ⟨day, time, offset⟩ else none

/-- The instant that a text names. -/
def read? (s : String) : Option Instant :=
  ofBytes? (s.toUTF8.toList.map fun byte => Char.ofNat byte.toNat)

end FeatureGates.Time.Iso
