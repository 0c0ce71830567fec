import FeatureGates.Number.Basic

/-!
# The calendar

Days are counted from the first of January of year 1, which is day 1, in
the Gregorian calendar carried back to that year. An instant is a day, a
time of day and perhaps an offset from universal time; without one it
counts as universal.
-/

namespace FeatureGates.Time

def isLeapYear (year : Nat) : Bool := year % 4 = 0 && (year % 100 ≠ 0 || year % 400 = 0)

def daysInMonth (year month : Nat) : Nat :=
  match month with
  | 2 => if isLeapYear year then 29 else 28
  | 4 | 6 | 9 | 11 => 30
  | _ => 31

/-- Days in the years before a year. -/
def daysBeforeYear (year : Nat) : Int :=
  let y : Int := (year : Int) - 1
  y * 365 + y.fdiv 4 - y.fdiv 100 + y.fdiv 400

/-- Days in the months before a month of a year. -/
def daysBeforeMonth (year month : Nat) : Nat :=
  (List.range (month - 1)).foldl (fun days m => days + daysInMonth year (m + 1)) 0

def greatestYear : Nat := 9999

/-- The number of a day, `none` if there is no such day. -/
def dayNumber? (year month day : Nat) : Option Int :=
  if 1 ≤ year ∧ year ≤ greatestYear ∧ 1 ≤ month ∧ month ≤ 12 ∧ 1 ≤ day ∧ day ≤ daysInMonth year month then
    some (daysBeforeYear year + (daysBeforeMonth year month : Int) + (day : Int))
  else none

/-- The last day that has a number. -/
def lastDay : Int := daysBeforeYear (greatestYear + 1)

/-! ## Weeks -/

/-- The weekday of a day number; Monday is 0. -/
def weekday (day : Int) : Int := (day + 6) % 7

/-- The Monday of the first week of a year, the week that holds its first Thursday. -/
def firstMonday (year : Nat) : Int :=
  let newYear := daysBeforeYear year + 1
  let monday := newYear - weekday newYear
  if weekday newYear > 3 then monday + 7 else monday

/-- A year has 53 weeks if it begins on a Thursday, or on a Wednesday and is a leap year. -/
def weeksInYear (year : Nat) : Nat :=
  let first := weekday (daysBeforeYear year + 1)
  if first = 3 ∨ (first = 2 ∧ isLeapYear year) then 53 else 52

/-- The number of a day given by year, week and weekday from 1. -/
def weekDayNumber? (year week day : Nat) : Option Int :=
  if 1 ≤ year ∧ year ≤ greatestYear ∧ 1 ≤ week ∧ week ≤ weeksInYear year ∧ 1 ≤ day ∧ day ≤ 7 then
    let number := firstMonday year + ((week : Int) - 1) * 7 + (day : Int) - 1
    if 1 ≤ number ∧ number ≤ lastDay then some number else none
  else none

/-! ## Instants -/

/-- Hours, minutes, seconds and microseconds of a day. -/
structure TimeOfDay where
  hour : Nat
  minute : Nat
  second : Nat
  microsecond : Nat
deriving DecidableEq

namespace TimeOfDay

def midnight : TimeOfDay := ⟨0, 0, 0, 0⟩

def isValid (t : TimeOfDay) : Bool :=
  t.hour < 24 && t.minute < 60 && t.second < 60 && t.microsecond < 1000000

def microseconds (t : TimeOfDay) : Int :=
  (((t.hour * 60 + t.minute) * 60 + t.second : Nat) : Int) * 1000000 + (t.microsecond : Int)

end TimeOfDay

/-- An instant: a day number, a time of that day, and the offset from
universal time in microseconds. -/
structure Instant where
  day : Int
  time : TimeOfDay
  offset : Int
deriving DecidableEq

/-- Microseconds in a day. -/
def dayLength : Int := 86400 * 1000000

/-- An offset has to be less than a day either way. -/
def isOffset (microseconds : Int) : Bool := -dayLength < microseconds && microseconds < dayLength

/-- The number of the first of January 1970. -/
def epochDay : Int := daysBeforeYear 1970 + 1

/-- Microseconds since the beginning of 1970. -/
def Instant.unixMicroseconds (i : Instant) : Int :=
  (i.day - epochDay) * dayLength + i.time.microseconds - i.offset

/-- Seconds since the beginning of 1970, rounded to floating point and then
down to a whole number. -/
def Instant.unixSeconds (i : Instant) : Except Failure Int := do
  (Number.float (← (Number.int i.unixMicroseconds).divNat 1000000)).floor

example : dayNumber? 1970 1 1 = some 719163 := by decide
example : dayNumber? 2023 2 29 = none := by decide
example : weekDayNumber? 2020 1 1 = dayNumber? 2019 12 30 := by decide

end FeatureGates.Time
