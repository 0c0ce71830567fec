import FeatureGates.Proofs.IsoTrailing
import FeatureGates.Proofs.Timestamps
import FeatureGates.Proofs.WholeQuotients

/-!
# Whole seconds

Milliseconds and microseconds are divided in floating point and then
rounded down. Numbers of up to `10 ^ 18` are told as the floor of their
exact seconds, before 1970 as after it, but for those that graze the next
second (`Timestamp.read_floors`). Milliseconds do so only `2 ^ 44` seconds
from 1970 and beyond, the microseconds of an ISO 8601 instant `2 ^ 34`
seconds from it and beyond, and whole milliseconds of an instant never.

A text of nothing but digits is told by its milliseconds, also where it is
an ISO 8601 date without dashes.
-/

namespace FeatureGates

/-! Powers of natural numbers are the ones of core. -/

attribute [local instance (2000)] instPowNat

/-! The unit is not to be computed where terms are compared. -/

attribute [local irreducible] unitsPerOne

theorem two_pow_log2_lt {q k : Nat} (positive : 0 < k) (h : q < 2 ^ k) :
    2 ^ q.log2 ≤ 2 ^ (k - 1) := by
  refine Nat.pow_le_pow_right (by decide) ?_
  by_cases none : q = 0
  · rw [none]
    exact Nat.zero_le _
  · have less := (Nat.log2_lt none).2 h
    omega

/-! ## Seconds that are grazed -/

/-- Milliseconds far from 1970 alone graze a second. -/
theorem not_grazes_of_milliseconds {n : Int} (near : n.natAbs < 2 ^ (44 : Nat) * 1000) :
    ¬Grazes n 1000 := by
  refine not_grazes_of_lt (by decide) ?_
  have power := two_pow_log2_lt (by decide) ((Nat.div_lt_iff_lt_mul (by decide)).2 near)
  unfold precision
  omega

/-- Microseconds far from 1970 alone graze a second. -/
theorem not_grazes_of_microseconds {n : Int} (near : n.natAbs < 2 ^ (34 : Nat) * 1000000) :
    ¬Grazes n 1000000 := by
  refine not_grazes_of_lt (by decide) ?_
  have power := two_pow_log2_lt (by decide) ((Nat.div_lt_iff_lt_mul (by decide)).2 near)
  unfold precision
  omega

/-- Microseconds that are whole milliseconds do not graze a second. -/
theorem not_grazes_of_thousands {n : Int} (whole : 1000 ∣ n)
    (bounded : n.natAbs ≤ 10 ^ (18 : Nat)) : ¬Grazes n 1000000 := by
  refine not_grazes_of_dvd (g := 1000) (by decide) whole (by decide) ?_
  have short : n.natAbs / 1000000 < 2 ^ (40 : Nat) := by omega
  have power := two_pow_log2_lt (by decide) short
  unfold precision
  omega

/-! ## Seconds that are told -/

/-- The seconds of a proper instant are the floor of its exact ones if these do not graze the
next. -/
theorem Time.Instant.IsProper.unixSeconds_eq {i : Instant} (h : i.IsProper)
    (apart : ¬Grazes i.unixMicroseconds 1000000) :
    i.unixSeconds = .ok (i.unixMicroseconds.fdiv 1000000) := by
  have bounded := h.natAbs_unixMicroseconds_le
  obtain ⟨s, m, quotient, floor⟩ := Number.divNat_floor (show 0 < 1000000 by decide) (by decide)
    (show i.unixMicroseconds.natAbs / 1000000 < 2 ^ (52 : Nat) by omega)
  rw [if_neg apart, Int.add_zero] at floor
  unfold unixSeconds
  rw [quotient]
  exact floor

namespace Timestamp

open Text

/-- Stated for any number: opened for an integer, its quotient would be computed in unary. -/
theorem ofMilliseconds_of_floor {a : Number} {s : Bool} {m : Magnitude} {k : Int}
    (quotient : a.divNat 1000 = .ok (.finite s m))
    (floor : (Number.float (.finite s m)).floor = .ok k) : ofMilliseconds a = .ok (.int k) := by
  unfold ofMilliseconds
  simp only [quotient, Binary64.isFinite, if_true]
  exact congrArg (Except.map Number.int) floor

theorem ofMilliseconds_int {n : Int} (bounded : n.natAbs ≤ 10 ^ (18 : Nat))
    (apart : ¬Grazes n 1000) : ofMilliseconds (.int n) = .ok (.int (n.fdiv 1000)) := by
  obtain ⟨s, m, quotient, floor⟩ := Number.divNat_floor (show 0 < 1000 by decide) (by decide)
    (show n.natAbs / 1000 < 2 ^ (52 : Nat) by omega)
  rw [if_neg apart, Int.add_zero] at floor
  exact ofMilliseconds_of_floor quotient floor

/-- A text of nothing but digits, the white space at its ends aside. -/
def IsCount (s : String) : Prop := ∀ c ∈ trim isBlank s.toList, isDigit c = true

instance (s : String) : Decidable (IsCount s) := List.decidableBAll ..

theorem ofText_of_instant {s : String} {i : Time.Instant} (named : Time.Iso.read? s = some i)
    (mixed : ¬IsCount s) : ofText s = i.unixSeconds.map .int := by
  have some_letter : (trim isBlank s.toList).all isDigit = false := by
    rw [← Bool.not_eq_true, List.all_eq_true]
    exact mixed
  unfold ofText
  dsimp only
  rw [some_letter, Bool.and_false, if_neg Bool.false_ne_true, Time.Iso.read?_trim named]
  rfl

theorem ofText_of_isCount {s : String} {n : Int} (count : IsCount s)
    (value : readInt 10 (trim isBlank s.toList) = .ok n) :
    ofText s = ofMilliseconds (.int n) := by
  have some_digit : (trim isBlank s.toList).isEmpty = false := by
    rw [List.isEmpty_eq_false_iff]
    intro none
    rw [none] at value
    cases value
  unfold ofText
  dsimp only
  simp only [some_digit, List.all_eq_true.2 count, value, Bool.not_false, Bool.and_self, if_true]

/-- Milliseconds and ISO 8601 texts are told as the floor of their exact seconds if these do not
graze the next second, as they can far from 1970 only; a text of digits counts milliseconds. -/
theorem read_floors :
    (∀ n : Int, n.natAbs ≤ 10 ^ (18 : Nat) → ¬Grazes n 1000 →
        read (.number (.int n)) = .ok (.int (n.fdiv 1000))) ∧
      (∀ s i, Time.Iso.read? s = some i → ¬IsCount s → ¬Grazes i.unixMicroseconds 1000000 →
        read (.text s) = .ok (.int (i.unixMicroseconds.fdiv 1000000))) ∧
      (∀ s n, IsCount s → readInt 10 (trim isBlank s.toList) = .ok n →
        read (.text s) = read (.number (.int n))) ∧
      (∀ n : Int, n.natAbs < 2 ^ (44 : Nat) * 1000 → ¬Grazes n 1000) ∧
      (∀ n : Int, n.natAbs < 2 ^ (34 : Nat) * 1000000 → ¬Grazes n 1000000) ∧
      ∀ n : Int, 1000 ∣ n → n.natAbs ≤ 10 ^ (18 : Nat) → ¬Grazes n 1000000 := by
  refine ⟨fun n => ofMilliseconds_int, fun s i named mixed apart => ?_,
    fun s n => ofText_of_isCount, fun n => not_grazes_of_milliseconds,
    fun n => not_grazes_of_microseconds, fun n => not_grazes_of_thousands⟩
  have seconds := (Time.Iso.isProper_of_read? named).unixSeconds_eq apart
  exact (ofText_of_instant named mixed).trans (congrArg (Except.map Number.int) seconds)

/-- A second and a half before 1970, the last microsecond of a second, and digits. -/
theorem read_floors_christmas :
    read (.number (.int (-1500))) = .ok (.int (-2)) ∧
      read (.text "2024-12-25T00:00:00.999999+01:00") = .ok (.int 1735081200) ∧
      read (.text " 20240101 ") = read (.number (.int 20240101)) := by
  obtain ⟨milliseconds, texts, counts, near, nearTexts, -⟩ := read_floors
  have christmas : Time.Iso.read? "2024-12-25T00:00:00.999999+01:00" =
      some ⟨739245, ⟨0, 0, 0, 999999⟩, 3600000000⟩ := by decide +kernel
  refine ⟨milliseconds (-1500) (by decide) (near _ (by decide)), ?_, ?_⟩
  · exact texts _ _ christmas (by decide +kernel) (nearTexts _ (by decide))
  · exact counts _ 20240101 (by decide +kernel) (Number.ok_of_toOption (by decide +kernel))

/-- Other seconds than the floor are told of a date without dashes, which counts milliseconds, and
where the next second is grazed, by milliseconds and by an instant. -/
theorem read_misses_floor :
    (∃ i, Time.Iso.read? "20240101" = some i ∧ i.unixMicroseconds.fdiv 1000000 = 1704067200 ∧
        read (.text "20240101") = .ok (.int 20240)) ∧
      (Grazes 999999999999999999 1000 ∧
        (999999999999999999 : Int).fdiv 1000 = 999999999999999 ∧
        read (.number (.int 999999999999999999)) = .ok (.int 1000000000000000)) ∧
      ∃ i, Time.Iso.read? "3000-01-01T00:00:00.999999Z" = some i ∧
        Grazes i.unixMicroseconds 1000000 ∧ i.unixMicroseconds.fdiv 1000000 = 32503680000 ∧
        read (.text "3000-01-01T00:00:00.999999Z") = .ok (.int 32503680001) := by
  refine ⟨⟨⟨738886, .midnight, 0⟩, by decide +kernel, by decide, ?_⟩, ⟨by decide +kernel, by decide,
    ?_⟩, ⟨1095363, ⟨0, 0, 0, 999999⟩, 0⟩, by decide +kernel, by decide +kernel, by decide, ?_⟩
  · exact Number.ok_of_toOption (by decide +kernel)
  · exact Number.ok_of_toOption (by decide +kernel)
  · exact Number.ok_of_toOption (by decide +kernel)

end Timestamp

end FeatureGates
