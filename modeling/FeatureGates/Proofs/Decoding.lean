import FeatureGates.Proofs.JsonText
import FeatureGates.Proofs.Readability
import FeatureGates.Proofs.ShortValues

/-!
# Decoding what is stored

Whatever other clients have stored under the keys of gates, decoding it gives
typed values, but for one thing: a text for a percentage that begins, without
a point anywhere, with an integer of more digits than integers are read with
(`Raw.IsOverlong`). A percentage decodes to nought where its text has no number
at the front (`Raw.HasNumber`), and an expression to none where its text is not
JSON text of an object (`Json.IsText`, through what the reader takes).
-/

namespace FeatureGates

/-! ## Digits of all scripts -/

namespace Text

/-- The characters are digits of any script. -/
def AllDigits (cs : List Char) : Prop := ∀ c ∈ cs, isDigit c = true

/-- A run of digits is taken off the front. -/
theorem exists_allDigits (cs : List Char) : ∃ front, cs = front ++ (takeDigits cs).2 ∧
    AllDigits front ∧ front.length = (takeDigits cs).1.length := by
  obtain ⟨front, text, digits⟩ := takeDigits_split cs
  refine ⟨front, text, ?_, ?_⟩
  · intro c mem
    have digit : digitValue? c ∈ (takeDigits cs).1.map some := digits ▸ List.mem_map_of_mem mem
    obtain ⟨digit, -, value⟩ := List.mem_map.1 digit
    rw [isDigit, ← value]
    rfl
  · simpa using congrArg List.length digits

/-- And it is the longest. -/
theorem length_le_takeDigits {front : List Char} (h : AllDigits front) (rest : List Char) :
    front.length ≤ (takeDigits (front ++ rest)).1.length := by
  induction front with
  | nil => exact Nat.zero_le _
  | cons c front ih =>
    obtain ⟨digit, value⟩ := Option.isSome_iff_exists.1 (h c List.mem_cons_self)
    have more := ih fun d mem => h d (List.mem_cons_of_mem c mem)
    simp only [List.cons_append, takeDigits, value, List.length_cons]
    omega

/-! ## The front of a text -/

/-- The rest of a text behind blanks, and a sign or none. -/
def Behind (cs rest : List Char) : Prop :=
  ∃ blanks, ∃ sign : Sign, cs = blanks ++ (sign.chars ++ rest) ∧ ∀ c ∈ blanks, isBlank c = true

theorem behind_signed (cs : List Char) : Behind cs (signed (cs.dropWhile isBlank)).2 := by
  obtain ⟨sign, marked, -⟩ := exists_sign (cs.dropWhile isBlank)
  refine ⟨cs.takeWhile isBlank, sign, ?_, List.all_eq_true.1 List.all_takeWhile⟩
  rw [← marked, List.takeWhile_append_dropWhile]

/-- Where a numeral starts there is nothing more to be left out. -/
theorem Behind.signed_eq {cs rest : List Char} {c : Char} (h : Behind cs (c :: rest))
    (starts : startsNumeral c = true) : (signed (cs.dropWhile isBlank)).2 = c :: rest := by
  obtain ⟨blanks, sign, rfl, blank⟩ := h
  have solid : (sign.chars ++ c :: rest).dropWhile isBlank = sign.chars ++ c :: rest := by
    simp only [startsNumeral, Bool.and_eq_true, Bool.not_eq_true'] at starts
    cases sign with
    | bare => exact List.dropWhile_cons_of_neg (by simp [starts.2])
    | plus => rfl
    | minus => rfl
  rw [List.dropWhile_append_of_pos blank, solid, signed_chars sign rest starts]

end Text

namespace Raw

open Text

/-- A text without a point at whose front stands an integer with more digits than can be read. -/
def IsOverlong (s : String) : Prop :=
  '.' ∉ s.toList ∧ ∃ digits rest, Behind s.toList (digits ++ rest) ∧ AllDigits digits ∧
    digitLimit < digits.length

/-- A text at whose front stands a number: a digit, or a point and a digit. -/
def HasNumber (s : String) : Prop :=
  ∃ c rest, isDigit c = true ∧ (Behind s.toList (c :: rest) ∨ Behind s.toList ('.' :: c :: rest))

/-- Digits that are taken off behind blanks and a sign are a number. -/
theorem hasNumber_of_takeDigits {s : String}
    (some_digit : (takeDigits (signed (s.toList.dropWhile isBlank)).2).1 ≠ []) : HasNumber s := by
  obtain ⟨front, text, digits, length⟩ :=
    exists_allDigits (signed (s.toList.dropWhile isBlank)).2
  have behind := behind_signed s.toList
  cases front with
  | nil => exact absurd (List.length_eq_zero_iff.1 length.symm) some_digit
  | cons c front =>
    rw [text] at behind
    exact ⟨c, _, digits c List.mem_cons_self, .inl behind⟩

theorem leadingInt_cases {s : String} (point : '.' ∉ s.toList) :
    (IsOverlong s ∧ ∃ digits, digitLimit < digits ∧
      leadingInt (s.toList.dropWhile isBlank) = .error (.numeralTooLong digits)) ∨
    (¬IsOverlong s ∧ ∃ n, leadingInt (s.toList.dropWhile isBlank) = .ok n ∧
      (HasNumber s ∨ n = 0)) := by
  obtain ⟨front, text, digits, length⟩ :=
    exists_allDigits (signed (s.toList.dropWhile isBlank)).2
  have behind := behind_signed s.toList
  have short (limit : (takeDigits (signed (s.toList.dropWhile isBlank)).2).1.length ≤ digitLimit) :
      ¬IsOverlong s := by
    rintro ⟨-, run, rest, front', all, long⟩
    cases run with
    | nil => cases long
    | cons c run =>
      obtain ⟨digit, value⟩ := Option.isSome_iff_exists.1 (all c List.mem_cons_self)
      have starts := startsNumeral_of_digitValue? value
      have whole : (signed (s.toList.dropWhile isBlank)).2 = (c :: run) ++ rest :=
        front'.signed_eq starts
      rw [whole] at limit
      have more := length_le_takeDigits all rest
      omega
  unfold leadingInt
  dsimp only
  split
  · rename_i none
    exact .inr ⟨short (by rw [none]; exact Nat.zero_le _), 0, rfl, .inr rfl⟩
  · rename_i run rest some_digit taken
    rw [taken] at text length short
    have number : HasNumber s := hasNumber_of_takeDigits (by rw [taken]; exact some_digit)
    split
    · rename_i long
      refine .inl ⟨⟨point, front, rest, ?_, digits, ?_⟩, run.length, long, rfl⟩
      · rwa [text] at behind
      · rwa [length]
    · rename_i limit
      exact .inr ⟨short (Nat.le_of_not_lt limit), _, rfl, .inl number⟩

/-- A decimal numeral that is scanned is a number. -/
theorem hasNumber_of_scan? {s : String} {scanned : DecimalNumeral × List Char}
    (h : DecimalNumeral.scan? (s.toList.dropWhile isBlank) = some scanned) : HasNumber s := by
  rw [DecimalNumeral.scan?_eq] at h
  dsimp only at h
  split at h
  · cases h
  · rename_i some_digit
    by_cases whole : (takeDigits (signed (s.toList.dropWhile isBlank)).2).1 = []
    · -- no digit comes first, so that there is a point, with a digit behind it
      obtain ⟨front, text, -, length⟩ :=
        exists_allDigits (signed (s.toList.dropWhile isBlank)).2
      rw [whole, List.length_nil, List.length_eq_zero_iff] at length
      rw [length, List.nil_append] at text
      have behind := behind_signed s.toList
      rw [text] at behind
      have fraction : (DecimalNumeral.afterPoint
          (takeDigits (signed (s.toList.dropWhile isBlank)).2).2).1 ≠ [] := by
        intro none
        rw [whole, none] at some_digit
        exact some_digit rfl
      unfold DecimalNumeral.afterPoint at fraction
      split at fraction
      · rename_i rest pointed
        obtain ⟨digits, behindPoint, all, length⟩ := exists_allDigits rest
        cases digits with
        | nil => exact absurd (List.length_eq_zero_iff.1 length.symm) fraction
        | cons c digits =>
          rw [pointed, behindPoint] at behind
          exact ⟨c, _, all c List.mem_cons_self, .inr behind⟩
      · exact absurd rfl fraction
    · exact hasNumber_of_takeDigits whole

/-- A text has a number, nought if there is none at its front, unless it is overlong. -/
theorem toNumber_text_cases (s : String) :
    (IsOverlong s ∧ ∃ digits, digitLimit < digits ∧
      toNumber (.text s) = .error (.numeralTooLong digits)) ∨
    (¬IsOverlong s ∧ ∃ n, toNumber (.text s) = .ok n ∧ (HasNumber s ∨ n = .int 0)) := by
  by_cases point : '.' ∈ s.toList
  · refine .inr ⟨fun h => h.1 point, ?_⟩
    simp only [toNumber, leadingNumber, List.contains_iff_mem.2 point, if_true]
    split
    · rename_i scanned
      exact ⟨_, rfl, .inl (hasNumber_of_scan? scanned)⟩
    · exact ⟨_, rfl, .inr rfl⟩
  · have plain : s.toList.contains '.' = false := by
      rwa [← Bool.not_eq_true, List.contains_iff_mem]
    simp only [toNumber, leadingNumber, plain, Bool.false_eq_true, if_false]
    rcases leadingInt_cases point with ⟨long, digits, many, error⟩ | ⟨short, n, ok, number⟩
    · exact .inl ⟨long, digits, many, by rw [error]; rfl⟩
    · refine .inr ⟨short, .int n, by rw [ok]; rfl, number.imp_right ?_⟩
      rintro rfl
      rfl

/-! ## Expressions -/

/-- An expression that is read from a text is an object with something in it. -/
theorem isText_of_toExpression {s : String} {entries : Entries}
    (h : toExpression (.text s) = some entries) :
    entries ≠ [] ∧ Json.IsText s.toList (.record entries) := by
  obtain ⟨value, read, held⟩ := Option.bind_eq_some_iff.1 h
  unfold nonEmpty? at held
  split at held
  · cases held
  · rename_i some_entry
    cases held
    refine ⟨?_, Json.isText_of_read read⟩
    rintro rfl
    exact some_entry rfl
  · cases held

/-! ## Sets -/

/-- A scalar, and no integer with more digits than can be written. -/
def IsShortScalar (value : Value) : Prop := ∃ s : Scalar, value = .scalar s ∧ s.isShort = true

/-- What storage may hold under the key of a gate. -/
inductive IsStorable : Value → Prop
  | scalar {value : Value} : IsShortScalar value → IsStorable value
  | list {items : List Value} : (∀ item ∈ items, IsShortScalar item) → IsStorable (.list items)
  | tuple {items : List Value} : (∀ item ∈ items, IsShortScalar item) → IsStorable (.tuple items)
  | set {items : List Value} : (∀ item ∈ items, IsShortScalar item) → IsStorable (.set items)
  | record (entries : Entries) : IsStorable (.record entries)

theorem exists_shown {value : Value} (h : IsShortScalar value) :
    ∃ text, value.shown = .ok text := by
  obtain ⟨s, rfl, short⟩ := h
  exact Value.shown_of_isShort short

theorem exists_toNames {value : Value} (h : IsStorable value) :
    ∃ names, toNames value = .ok names := by
  have shown (items : List Value) (all : ∀ item ∈ items, IsShortScalar item) :
      ∃ names, toNames (.set items) = .ok names :=
    exists_toNames_set.2 fun item mem => exists_shown (all item mem)
  cases h with
  | scalar short =>
    obtain ⟨s, rfl, -⟩ := short
    exact ⟨.empty, rfl⟩
  | list all => exact shown _ all
  | tuple all => exact shown _ all
  | set all => exact shown _ all
  | record entries => exact ⟨.empty, rfl⟩

/-! ## Typed values -/

theorem hasNumber_of_isOverlong {s : String} (h : IsOverlong s) : HasNumber s := by
  obtain ⟨-, digits, rest, behind, all, long⟩ := h
  cases digits with
  | nil => cases long
  | cons c digits => exact ⟨c, digits ++ rest, all c List.mem_cons_self, .inl behind⟩

/-- Under the key of a gate there is an overlong text. -/
def HoldsOverlong (raw : Entries) (gate : Gate) : Prop :=
  ∃ s, Entries.get raw gate.key = .text s ∧ IsOverlong s

theorem toNumber_cases (raw : Entries) (gate : Gate) :
    (HoldsOverlong raw gate ∧ ∃ digits, digitLimit < digits ∧
      toNumber (Entries.get raw gate.key) = .error (.numeralTooLong digits)) ∨
    (¬HoldsOverlong raw gate ∧ ∃ n, toNumber (Entries.get raw gate.key) = .ok n) := by
  unfold HoldsOverlong
  by_cases text : ∃ s, Entries.get raw gate.key = .text s
  · obtain ⟨s, text⟩ := text
    rw [text]
    rcases toNumber_text_cases s with ⟨long, failed⟩ | ⟨short, n, ok, -⟩
    · exact .inl ⟨⟨s, rfl, long⟩, failed⟩
    · refine .inr ⟨?_, n, ok⟩
      rintro ⟨s', same, long⟩
      cases same
      exact short long
  · refine .inr ⟨fun ⟨s, same, _⟩ => text ⟨s, same⟩, ?_⟩
    cases value : Entries.get raw gate.key with
    | scalar s =>
      cases s with
      | text s => exact absurd ⟨s, value⟩ text
      | number n => exact ⟨n, rfl⟩
      | _ => exact ⟨.int 0, rfl⟩
    | _ => exact ⟨.int 0, rfl⟩

theorem isStorable_get {raw : Entries} (storable : ∀ entry ∈ raw, IsStorable entry.2)
    (key : String) : IsStorable (Entries.get raw key) := by
  have null : IsStorable .null := .scalar ⟨.null, rfl, rfl⟩
  unfold Entries.get
  induction raw with
  | nil => exact null
  | cons entry rest ih =>
    have others := ih fun other mem => storable other (List.mem_cons_of_mem entry mem)
    unfold Entries.get?
    split
    · exact null
    · rename_i k value rest' same
      cases same
      split
      · exact storable _ List.mem_cons_self
      · exact others
    · rename_i same
      cases same
      exact others

theorem ofEntries_cases {raw : Entries} (storable : ∀ entry ∈ raw, IsStorable entry.2) :
    ((HoldsOverlong raw .percentageOfActors ∨ HoldsOverlong raw .percentageOfTime) ∧
      ∃ digits, digitLimit < digits ∧
        GateValues.ofEntries raw = .error (.numeralTooLong digits)) ∨
    (¬(HoldsOverlong raw .percentageOfActors ∨ HoldsOverlong raw .percentageOfTime) ∧
      ∃ values, GateValues.ofEntries raw = .ok values) := by
  obtain ⟨actors, hactors⟩ := exists_toNames (isStorable_get storable Gate.actor.key)
  obtain ⟨groups, hgroups⟩ := exists_toNames (isStorable_get storable Gate.group.key)
  simp only [GateValues.ofEntries, hactors, hgroups]
  rcases toNumber_cases raw .percentageOfActors with ⟨long, digits, many, error⟩ | ⟨short, n, ok⟩
  · rw [error]
    exact .inl ⟨.inl long, digits, many, rfl⟩
  · rw [ok]
    rcases toNumber_cases raw .percentageOfTime with ⟨long, digits, many, error⟩ | ⟨short', m, ok'⟩
    · rw [error]
      exact .inl ⟨.inr long, digits, many, rfl⟩
    · rw [ok']
      exact .inr ⟨fun long => long.elim short short', _, rfl⟩

/-- What decoding comes to. -/
structure Decoding (raw : Entries) : Prop where
  /-- What is stored is typed unless it holds an overlong text for a percentage. -/
  typed : (∃ values, GateValues.ofRaw (.record raw) = .ok values) ↔
    ¬(HoldsOverlong raw .percentageOfActors ∨ HoldsOverlong raw .percentageOfTime)
  /-- Then it is a failure that says how many digits there are. -/
  untyped : HoldsOverlong raw .percentageOfActors ∨ HoldsOverlong raw .percentageOfTime →
    ∃ digits, digitLimit < digits ∧
      GateValues.ofRaw (.record raw) = .error (.numeralTooLong digits)
  /-- A text has a number unless it is overlong. -/
  number (s : String) : (∃ n, toNumber (.text s) = .ok n) ↔ ¬IsOverlong s
  /-- A text with no number at its front has nought. -/
  nought (s : String) : ¬HasNumber s → toNumber (.text s) = .ok (.int 0)
  /-- A text that is not JSON text of an object with something in it has no expression. -/
  expression (s : String) :
    (¬∃ entries, entries ≠ [] ∧ Json.IsText s.toList (.record entries)) →
    toExpression (.text s) = none

/-- Whatever is stored is decoded, texts for percentages that are overlong apart. -/
theorem decodes {raw : Entries} (storable : ∀ entry ∈ raw, IsStorable entry.2) :
    Decoding raw where
  typed := by
    rcases ofEntries_cases storable with ⟨long, digits, -, error⟩ | ⟨short, typed⟩
    · refine iff_of_false ?_ (not_not_intro long)
      rintro ⟨values, ok⟩
      cases error.symm.trans ok
    · exact iff_of_true typed short
  untyped long := by
    rcases ofEntries_cases storable with ⟨-, failed⟩ | ⟨short, -⟩
    · exact failed
    · exact absurd long short
  number s := by
    rcases toNumber_text_cases s with ⟨long, digits, -, error⟩ | ⟨short, n, ok, -⟩
    · refine iff_of_false ?_ (not_not_intro long)
      rintro ⟨n, ok⟩
      cases error.symm.trans ok
    · exact iff_of_true ⟨n, ok⟩ short
  nought s none := by
    rcases toNumber_text_cases s with ⟨long, -⟩ | ⟨-, n, ok, number | rfl⟩
    · exact absurd (hasNumber_of_isOverlong long) none
    · exact absurd number none
    · exact ok
  expression s none := by
    cases read : toExpression (.text s) with
    | none => rfl
    | some entries => exact absurd ⟨entries, isText_of_toExpression read⟩ none

/-- A set of actors, a text for a percentage and an expression that is none. -/
theorem decodes_shared :
    let raw : Entries := [(.text "actors", .set [.text "User;1", .int 7]),
      (.text "percentage_of_time", .text " 25%"), (.text "expression", .text "[]")]
    (∀ entry ∈ raw, IsStorable entry.2) ∧ Decoding raw := by
  intro raw
  have storable : ∀ entry ∈ raw, IsStorable entry.2 := by
    intro entry mem
    simp only [raw, List.mem_cons, List.not_mem_nil, or_false] at mem
    rcases mem with rfl | rfl | rfl
    · refine .set fun item mem => ?_
      simp only [List.mem_cons, List.not_mem_nil, or_false] at mem
      rcases mem with rfl | rfl
      · exact ⟨.text _, rfl, rfl⟩
      · exact ⟨.number (.int 7), rfl, by decide +kernel⟩
    · exact .scalar ⟨.text _, rfl, rfl⟩
    · exact .scalar ⟨.text _, rfl, rfl⟩
  exact ⟨storable, decodes storable⟩

/-- One digit more than can be read. -/
theorem not_typed_nines :
    let raw : Entries := [(.text "boolean", .text "true"),
      (.text "percentage_of_time", .text (String.ofList (List.replicate 4301 '9')))]
    (∀ entry ∈ raw, IsStorable entry.2) ∧
      ¬∃ values, GateValues.ofRaw (.record raw) = .ok values := by
  intro raw
  have storable : ∀ entry ∈ raw, IsStorable entry.2 := by
    intro entry mem
    simp only [raw, List.mem_cons, List.not_mem_nil, or_false] at mem
    rcases mem with rfl | rfl
    · exact .scalar ⟨.text _, rfl, rfl⟩
    · exact .scalar ⟨.text _, rfl, rfl⟩
  have overlong : IsOverlong (String.ofList (List.replicate 4301 '9')) := by
    rw [IsOverlong, String.toList_ofList]
    refine ⟨fun mem => absurd (List.eq_of_mem_replicate mem) (by decide),
      List.replicate 4301 '9', [], ⟨[], .bare, (List.append_nil _).symm, nofun⟩, ?_, ?_⟩
    · intro c mem
      rw [List.eq_of_mem_replicate mem]
      decide +kernel
    · rw [List.length_replicate]
      decide
  have found (value : Value) : Entries.get [(.text "boolean", .text "true"),
      (.text "percentage_of_time", value)] Gate.percentageOfTime.key = value := by
    simp [Entries.get, Entries.get?, Gate.key, Gate.name]
  have held : HoldsOverlong raw .percentageOfTime := ⟨_, found _, overlong⟩
  rcases ofEntries_cases storable with ⟨-, digits, -, error⟩ | ⟨short, -⟩
  · refine ⟨storable, ?_⟩
    rintro ⟨values, ok⟩
    cases error.symm.trans ok
  · exact absurd (.inr held) short

end Raw

end FeatureGates
