import FeatureGates.Proofs.Instants
import FeatureGates.Time.Timestamp

/-!
# When a timestamp can be told

A value is read as a whole number of seconds or as NaN. There is one kind
of text for which nothing is told: a mail date is not refused like other
texts that name no time if a part of it is beyond what a date can hold
(`Time.Mail.Parts.Overruns`), but fails, and the failure is passed on
(`Timestamp.read_iff`).

The offset is looked at first. One of a billion days fails by itself; one
of a day or more is refused before the other parts are looked at.
-/

namespace FeatureGates

/-! ## Dates of mail headers -/

namespace Time.Mail

/-- The number fits a signed word of 32 bits. -/
def IsWord (n : Int) : Prop := -0x80000000 ≤ n ∧ n < 0x80000000

instance (n : Int) : Decidable (IsWord n) := inferInstanceAs (Decidable (_ ∧ _))

theorem checkWord_of_isWord {n : Int} (h : IsWord n) : checkWord n = .ok () := by
  obtain ⟨low, high⟩ := h
  unfold checkWord
  rw [if_neg (by omega), if_neg (by omega), if_neg (by omega)]

theorem checkWord_of_not_isWord {n : Int} (h : ¬IsWord n) :
    ∃ fault, checkWord n = .error (.dateOutOfRange fault) := by
  unfold IsWord at h
  unfold checkWord
  split
  · exact ⟨_, rfl⟩
  · split
    · exact ⟨_, rfl⟩
    · rw [if_pos (by omega)]
      exact ⟨_, rfl⟩

theorem forM_checkWord_of_isWord {parts : List Int} (h : ∀ n ∈ parts, IsWord n) :
    parts.forM checkWord = .ok () := by
  induction parts with
  | nil => rfl
  | cons n rest ih =>
    obtain ⟨first, others⟩ := List.forall_mem_cons.1 h
    show (do checkWord n; rest.forM checkWord) = _
    rw [checkWord_of_isWord first]
    exact ih others

theorem forM_checkWord_of_not_isWord {parts : List Int} (h : ∃ n ∈ parts, ¬IsWord n) :
    ∃ fault, parts.forM checkWord = .error (.dateOutOfRange fault) := by
  induction parts with
  | nil =>
    obtain ⟨n, mem, -⟩ := h
    cases mem
  | cons n rest ih =>
    show ∃ fault, (do checkWord n; rest.forM checkWord) = _
    by_cases first : IsWord n
    · rw [checkWord_of_isWord first]
      obtain ⟨k, mem, large⟩ := h
      rcases List.mem_cons.1 mem with rfl | mem
      · exact absurd first large
      · exact ih ⟨k, mem, large⟩
    · obtain ⟨fault, failed⟩ := checkWord_of_not_isWord first
      rw [failed]
      exact ⟨fault, rfl⟩

/-- The offset is one of at most 999999999 whole days. -/
def IsSpan (seconds : Int) : Prop := -999999999 * 86400 ≤ seconds ∧ seconds < 1000000000 * 86400

instance (seconds : Int) : Decidable (IsSpan seconds) := inferInstanceAs (Decidable (_ ∧ _))

theorem checkOffset_of_isSpan {seconds : Int} (h : IsSpan seconds) :
    checkOffset seconds = .ok () := by
  obtain ⟨low, high⟩ := h
  unfold checkOffset
  rw [Int.fdiv_eq_ediv_of_nonneg _ (by decide)]
  dsimp only
  rw [if_neg (by omega), if_neg (by omega)]

theorem checkOffset_of_not_isSpan {seconds : Int} (h : ¬IsSpan seconds) :
    ∃ fault, checkOffset seconds = .error (.dateOutOfRange fault) := by
  unfold IsSpan at h
  unfold checkOffset
  rw [Int.fdiv_eq_ediv_of_nonneg _ (by decide)]
  dsimp only
  split
  · exact ⟨_, rfl⟩
  · rw [if_pos (by omega)]
    exact ⟨_, rfl⟩

theorem isOffset_iff {seconds : Int} :
    isOffset (seconds * 1000000) = true ↔ -86400 < seconds ∧ seconds < 86400 := by
  simp only [isOffset, Bool.and_eq_true, decide_eq_true_eq]
  simp only [dayLength]
  omega

/-- No date holds the parts: the offset is no span of days, or it is one of
less than a day and a year, day, hour, minute or second is no word. -/
def Parts.Overruns (p : Parts) : Prop :=
  ¬IsSpan (p.offset.getD 0) ∨
    (-86400 < p.offset.getD 0 ∧ p.offset.getD 0 < 86400) ∧
      ∃ n ∈ [p.year, p.day, p.hour, p.minute, p.second], ¬IsWord n

theorem Parts.isProper_of_instant? {p : Parts} {i : Instant}
    (within : isOffset (p.offset.getD 0 * 1000000) = true) (h : p.instant? = some i) :
    i.IsProper := by
  unfold instant? at h
  obtain ⟨year, -, h⟩ := Option.bind_eq_some_iff.1 h
  obtain ⟨dayOfMonth, -, h⟩ := Option.bind_eq_some_iff.1 h
  obtain ⟨day, date, h⟩ := Option.bind_eq_some_iff.1 h
  obtain ⟨hour, -, h⟩ := Option.bind_eq_some_iff.1 h
  obtain ⟨minute, -, h⟩ := Option.bind_eq_some_iff.1 h
  obtain ⟨second, -, h⟩ := Option.bind_eq_some_iff.1 h
  dsimp only at h
  split at h
  · rename_i valid
    cases h
    exact ⟨isDay_of_dayNumber? date, valid, within⟩
  · cases h

/-- A mail date that does not overrun is told: as a proper instant, or as none. -/
theorem read_of_not_overruns {s : String} (h : ∀ p ∈ parts? s, ¬p.Overruns) :
    ∃ found, read s = .ok found ∧ ∀ i ∈ found, i.IsProper := by
  unfold read
  cases parsed : parts? s with
  | none => exact ⟨none, rfl, nofun⟩
  | some p =>
    obtain ⟨span, fits⟩ := not_or.1 (h p parsed)
    have span : IsSpan (p.offset.getD 0) := Decidable.not_not.1 span
    dsimp only
    rw [checkOffset_of_isSpan span]
    by_cases within : isOffset (p.offset.getD 0 * 1000000) = true
    · have words : ∀ n ∈ [p.year, p.day, p.hour, p.minute, p.second], IsWord n := fun n mem =>
        Decidable.not_not.1 fun large => fits ⟨isOffset_iff.1 within, n, mem, large⟩
      refine ⟨p.instant?, ?_, fun i found => p.isProper_of_instant? within found⟩
      rw [within, forM_checkWord_of_isWord words]
      rfl
    · refine ⟨none, ?_, nofun⟩
      rw [Bool.eq_false_iff.2 within]
      rfl

theorem read_of_overruns {s : String} {p : Parts} (parsed : parts? s = some p)
    (h : p.Overruns) : ∃ fault, read s = .error (.dateOutOfRange fault) := by
  unfold read
  rw [parsed]
  dsimp only
  by_cases span : IsSpan (p.offset.getD 0)
  · rcases h with far | ⟨within, large⟩
    · exact absurd span far
    · obtain ⟨fault, failed⟩ := forM_checkWord_of_not_isWord large
      refine ⟨fault, ?_⟩
      rw [checkOffset_of_isSpan span, isOffset_iff.2 within, failed]
      rfl
  · obtain ⟨fault, failed⟩ := checkOffset_of_not_isSpan span
    refine ⟨fault, ?_⟩
    rw [failed]
    rfl

theorem parts?_empty : parts? (String.ofList []) = none := by decide +kernel

end Time.Mail

/-! ## Timestamps -/

namespace Timestamp

open Text

/-- A whole number of seconds, or NaN. -/
def IsTold (result : Except Failure Number) : Prop :=
  (∃ k, result = .ok (.int k)) ∨ result = .ok (.float .nan)

theorem isTold_ofMilliseconds (n : Number) : IsTold (ofMilliseconds n) := by
  unfold ofMilliseconds
  split
  · exact .inr rfl
  · rename_i seconds quotient
    cases seconds with
    | finite s m => exact .inl ⟨_, rfl⟩
    | nan => exact .inr rfl
    | infinite s => exact .inr rfl

theorem isTold_ofInstant {found : Option Time.Instant} (h : ∀ i ∈ found, i.IsProper) :
    IsTold (ofInstant found) := by
  cases found with
  | none => exact .inr rfl
  | some i =>
    obtain ⟨k, seconds⟩ := (h i rfl).exists_unixSeconds
    refine .inl ⟨k, ?_⟩
    rw [ofInstant, seconds]
    rfl

/-- The value is a text that is read as a mail date, being neither a run of
digits nor an ISO 8601 instant, and the parts of that date overrun. -/
def Overruns : Value → Prop
  | .text s =>
    let trimmed := trim isBlank s.toList
    (∃ c ∈ trimmed, isDigit c = false) ∧ Time.Iso.read? (String.ofList trimmed) = none ∧
      ∃ p ∈ Time.Mail.parts? (String.ofList trimmed), p.Overruns
  | _ => False

theorem ofText_of_overruns {s : String} (h : Overruns (.text s)) :
    ∃ fault, ofText s = .error (.dateOutOfRange fault) := by
  obtain ⟨⟨c, mem, letter⟩, other, p, parsed, overruns⟩ := h
  have mixed : (trim isBlank s.toList).all isDigit = false :=
    List.all_eq_false.2 ⟨c, mem, Bool.eq_false_iff.1 letter⟩
  obtain ⟨fault, failed⟩ := Time.Mail.read_of_overruns parsed overruns
  refine ⟨fault, ?_⟩
  unfold ofText
  dsimp only
  rw [mixed, Bool.and_false, if_neg Bool.false_ne_true, other, failed]
  rfl

theorem isTold_ofText {s : String} (h : ¬Overruns (.text s)) : IsTold (ofText s) := by
  unfold ofText
  dsimp only
  split
  · split
    · exact isTold_ofMilliseconds _
    · exact .inr rfl
  · rename_i mixed
    split
    · rename_i i found
      refine isTold_ofInstant ?_
      rintro _ ⟨⟩
      exact Time.Iso.isProper_of_read? found
    · rename_i other
      -- what is left is a mail date or nothing, and the empty text is none
      have fits : ∀ p ∈ Time.Mail.parts? (String.ofList (trim isBlank s.toList)),
          ¬p.Overruns := by
        intro p parsed overruns
        refine h ⟨?_, other, p, parsed, overruns⟩
        by_cases empty : trim isBlank s.toList = []
        · rw [empty, Time.Mail.parts?_empty] at parsed
          cases parsed
        · rw [Bool.and_eq_true, not_and, Bool.not_eq_true', List.isEmpty_eq_false_iff,
            List.all_eq_true] at mixed
          obtain ⟨c, letter⟩ := Classical.not_forall.1 (mixed empty)
          obtain ⟨mem, letter⟩ := Classical.not_imp.1 letter
          exact ⟨c, mem, Bool.eq_false_iff.2 letter⟩
      obtain ⟨found, read, proper⟩ := Time.Mail.read_of_not_overruns fits
      rw [read]
      exact isTold_ofInstant proper

/-- Every value is told as seconds or as NaN, but for a mail date that overruns. -/
theorem isTold_read {value : Value} (h : ¬Overruns value) : IsTold (read value) := by
  unfold read
  split
  · exact isTold_ofMilliseconds _
  · exact isTold_ofText h
  · refine isTold_ofText ?_
    rintro ⟨⟨c, mem, -⟩, -⟩
    exact absurd mem List.not_mem_nil

theorem read_of_overruns {value : Value} (h : Overruns value) :
    ∃ fault, read value = .error (.dateOutOfRange fault) := by
  unfold Overruns at h
  split at h
  · rename_i s
    show ∃ fault, ofText s = .error (.dateOutOfRange fault)
    exact ofText_of_overruns h
  · cases h

/-- Which values are told a time, and how the others fail. -/
theorem read_iff (value : Value) :
    (IsTold (read value) ↔ ¬Overruns value) ∧
      ((∃ fault, read value = .error (.dateOutOfRange fault)) ↔ Overruns value) := by
  have apart : IsTold (read value) → ¬∃ fault, read value = .error (.dateOutOfRange fault) := by
    rintro told ⟨fault, failed⟩
    rw [failed] at told
    rcases told with ⟨k, same⟩ | same
    · cases same
    · cases same
  constructor
  · exact ⟨fun told overruns => apart told (read_of_overruns overruns), isTold_read⟩
  · refine ⟨fun failed => ?_, read_of_overruns⟩
    exact Classical.byContradiction fun fits => apart (isTold_read fits) failed

/-- A year of ten digits is not refused but overflows. -/
theorem read_farYear :
    read (.text "1 Jan 9999999999 00:00:00") = .error (.dateOutOfRange .aboveGreatest) := by
  have failed : (match read (.text "1 Jan 9999999999 00:00:00") with
      | .error failure => some failure
      | .ok _ => none) = some (.dateOutOfRange .aboveGreatest) := by decide +kernel
  generalize read (.text "1 Jan 9999999999 00:00:00") = result at failed
  cases result with
  | ok n => cases failed
  | error failure => exact congrArg Except.error (Option.some.inj failed)

end Timestamp

end FeatureGates
