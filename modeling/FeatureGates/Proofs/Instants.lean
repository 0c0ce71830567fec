import FeatureGates.Proofs.Oversize
import FeatureGates.Time.Iso

/-!
# Days of the calendar and instants

A date that is accepted is a day between the beginning of year 1 and the
end of year 9999 (`Time.isDay_of_dayNumber?`): the days before a month and
those of the month are days of the year, and the years add up.

An instant is *proper* if it has such a day, a time of that day and an
offset of less than a day (`Time.Instant.IsProper`). Its distance from 1970
in microseconds is below `10 ^ 18`, so that it can be divided in floating
point and rounded down (`Time.Instant.IsProper.exists_unixSeconds`). Every
instant that is read from an ISO 8601 text is proper
(`Time.Iso.isProper_of_read?`).
-/

namespace FeatureGates.Time

/-! Powers of natural numbers are the ones of core. -/

attribute [local instance (2000)] instPowNat

/-! ## Days -/

/-- A day from the first of January of year 1 to the last of December of year 9999. -/
def IsDay (n : Int) : Prop := 1 ≤ n ∧ n ≤ lastDay

def daysInYear (year : Nat) : Nat := if isLeapYear year then 366 else 365

theorem isLeapYear_iff {year : Nat} :
    isLeapYear year = true ↔ year % 4 = 0 ∧ (year % 100 ≠ 0 ∨ year % 400 = 0) := by
  simp only [isLeapYear, Bool.and_eq_true, Bool.or_eq_true, decide_eq_true_eq]

theorem daysBeforeYear_eq (year : Nat) :
    daysBeforeYear year =
      ((year : Int) - 1) * 365 + ((year : Int) - 1) / 4 - ((year : Int) - 1) / 100
        + ((year : Int) - 1) / 400 := by
  simp only [daysBeforeYear, Int.fdiv_eq_ediv_of_nonneg _ (show (0 : Int) ≤ 4 by decide),
    Int.fdiv_eq_ediv_of_nonneg _ (show (0 : Int) ≤ 100 by decide),
    Int.fdiv_eq_ediv_of_nonneg _ (show (0 : Int) ≤ 400 by decide)]

theorem daysBeforeYear_succ (year : Nat) :
    daysBeforeYear (year + 1) = daysBeforeYear year + daysInYear year := by
  rw [daysBeforeYear_eq, daysBeforeYear_eq, daysInYear]
  split
  · rename_i leap
    rw [isLeapYear_iff] at leap
    omega
  · rename_i common
    rw [isLeapYear_iff] at common
    omega

theorem daysBeforeYear_mono {a b : Nat} (h : a ≤ b) : daysBeforeYear a ≤ daysBeforeYear b := by
  rw [daysBeforeYear_eq, daysBeforeYear_eq]
  omega

/-- The days of a month are days of its year. -/
theorem daysBeforeMonth_add_le {year month : Nat} (low : 1 ≤ month) (high : month ≤ 12) :
    daysBeforeMonth year month + daysInMonth year month ≤ daysInYear year := by
  obtain ⟨k, rfl⟩ : ∃ k : Fin 12, month = k + 1 := by
    refine ⟨⟨month - 1, by omega⟩, ?_⟩
    show month = month - 1 + 1
    omega
  revert k
  unfold daysBeforeMonth daysInMonth daysInYear
  cases isLeapYear year <;> decide

theorem isDay_of_dayNumber? {year month day : Nat} {n : Int}
    (h : dayNumber? year month day = some n) : IsDay n := by
  unfold dayNumber? at h
  split at h
  · rename_i given
    obtain ⟨first, last, january, december, low, high⟩ := given
    cases h
    have within := @daysBeforeMonth_add_le year month january december
    have year_end := daysBeforeYear_succ year
    have begins : daysBeforeYear 1 ≤ daysBeforeYear year := daysBeforeYear_mono first
    have ends : daysBeforeYear (year + 1) ≤ lastDay :=
      daysBeforeYear_mono (Nat.succ_le_succ last)
    have zero : daysBeforeYear 1 = 0 := rfl
    constructor <;> omega
  · cases h

theorem isDay_of_weekDayNumber? {year week day : Nat} {n : Int}
    (h : weekDayNumber? year week day = some n) : IsDay n := by
  unfold weekDayNumber? at h
  split at h
  · dsimp only at h
    split at h
    · rename_i within
      cases h
      exact within
    · cases h
  · cases h

/-! ## Instants -/

/-- A day of the calendar, a time of that day and an offset of less than a day. -/
structure Instant.IsProper (i : Instant) : Prop where
  day : IsDay i.day
  time : i.time.isValid = true
  offset : isOffset i.offset = true

theorem TimeOfDay.microseconds_bounds {t : TimeOfDay} (h : t.isValid = true) :
    0 ≤ t.microseconds ∧ t.microseconds < dayLength := by
  simp only [isValid, Bool.and_eq_true, decide_eq_true_eq] at h
  unfold microseconds dayLength
  constructor <;> omega

namespace Instant.IsProper

variable {i : Instant}

theorem natAbs_unixMicroseconds_le (h : i.IsProper) :
    i.unixMicroseconds.natAbs ≤ 10 ^ (18 : Nat) := by
  have day := h.day
  have time := TimeOfDay.microseconds_bounds h.time
  have offset := h.offset
  have last : lastDay = 3652059 := by decide
  have epoch : epochDay = 719163 := by decide
  simp only [isOffset, Bool.and_eq_true, decide_eq_true_eq] at offset
  simp only [IsDay, last] at day
  simp only [dayLength] at time offset
  simp only [Instant.unixMicroseconds, dayLength, epoch]
  omega

/-- The seconds of a proper instant can be told. -/
theorem exists_unixSeconds (h : i.IsProper) : ∃ k, i.unixSeconds = .ok k := by
  have large : (Number.int (10 ^ 18 : Nat)).fits = true := by decide +kernel
  have fits : (Number.int i.unixMicroseconds).fits = true := by
    refine Number.fits_int_mono ?_ large
    rw [Int.natAbs_natCast]
    exact h.natAbs_unixMicroseconds_le
  obtain ⟨x, near⟩ := Number.exists_toBinary64 fits
  obtain ⟨y, quotient⟩ := Number.exists_divNat (d := 1000000) (by decide) near
  obtain ⟨n, -, rounded⟩ | ⟨z, whole, -⟩ := Number.divNat_eq_ok quotient
  · obtain ⟨m, -, rfl⟩ := Binary64.ofRatio?_eq_some rounded
    unfold unixSeconds
    rw [quotient]
    exact ⟨_, rfl⟩
  · cases whole

end Instant.IsProper

/-! ## ISO 8601 instants -/

namespace Iso

theorem isDay_of_date? {length : Nat} {cs : List Char} {day : Int}
    (h : date? length cs = some day) : IsDay day := by
  unfold date? at h
  obtain ⟨⟨year, afterYear⟩, -, h⟩ := Option.bind_eq_some_iff.1 h
  dsimp only at h
  generalize (if peek afterYear = '-' then afterYear.drop 1 else afterYear) = rest at h
  generalize (if peek afterYear = '-' then 1 else 0) = dashes at h
  split at h
  · obtain ⟨⟨week, afterWeek⟩, -, h⟩ := Option.bind_eq_some_iff.1 h
    dsimp only at h
    split at h
    · obtain ⟨afterDash, -, h⟩ := Option.bind_eq_some_iff.1 h
      obtain ⟨⟨weekday, rest⟩, -, h⟩ := Option.bind_eq_some_iff.1 h
      exact isDay_of_weekDayNumber? h
    · exact isDay_of_weekDayNumber? h
  · obtain ⟨⟨month, afterMonth⟩, -, h⟩ := Option.bind_eq_some_iff.1 h
    obtain ⟨afterDash, -, h⟩ := Option.bind_eq_some_iff.1 h
    obtain ⟨⟨dayOfMonth, rest⟩, -, h⟩ := Option.bind_eq_some_iff.1 h
    exact isDay_of_dayNumber? h

theorem isOffset_of_offset? {negative : Bool} {cs : List Char} {offset : Int}
    (h : offset? negative cs = some offset) : isOffset offset = true := by
  unfold offset? at h
  obtain ⟨⟨time, stray⟩, -, h⟩ := Option.bind_eq_some_iff.1 h
  dsimp only at h
  split at h
  · cases h
  · generalize (if negative then _ else _ : Int) = sized at h
    split at h
    · rename_i within
      cases h
      exact within
    · cases h

theorem isOffset_of_timeAndOffset? {cs : List Char} {time : TimeOfDay} {offset : Int}
    (h : timeAndOffset? cs = some (time, offset)) : isOffset offset = true := by
  unfold timeAndOffset? at h
  obtain ⟨⟨clock, stray⟩, -, h⟩ := Option.bind_eq_some_iff.1 h
  dsimp only at h
  split at h
  · split at h
    · cases h
    · cases h
      rfl
  · split at h
    · cases h
      rfl
    · cases h
  · obtain ⟨given, read, h⟩ := Option.bind_eq_some_iff.1 h
    cases h
    exact isOffset_of_offset? read

theorem isProper_of_read? {s : String} {i : Instant} (h : read? s = some i) : i.IsProper := by
  unfold read? ofBytes? at h
  split at h
  · cases h
  · obtain ⟨length, -, h⟩ := Option.bind_eq_some_iff.1 h
    obtain ⟨day, date, h⟩ := Option.bind_eq_some_iff.1 h
    dsimp only at h
    split at h
    · cases h
      exact ⟨isDay_of_date? date, rfl, rfl⟩
    · obtain ⟨⟨time, offset⟩, clock, h⟩ := Option.bind_eq_some_iff.1 h
      dsimp only at h
      split at h
      · rename_i valid
        cases h
        exact ⟨isDay_of_date? date, valid, isOffset_of_timeAndOffset? clock⟩
      · cases h

end Iso

end FeatureGates.Time
