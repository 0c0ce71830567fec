import FeatureGates.Proofs.Instants
import FeatureGates.Text.Blank

/-!
# What may follow an ISO 8601 text

A text that is read as an instant may go on after a null character: what
follows is not looked at. So white space at the end of such a text does
not keep it from being read, but it never decides what is read either: a
text that names an instant names the same one without the white space at
its ends (`Time.Iso.read?_trim`).

The bytes of white space are *inert* (`IsInert`): no part of a date or time
is made of them, and none ends at them. They are taken off the end one at a
time. Reading a time stops at an inert byte with something left over, if it
gets there at all.
-/

namespace FeatureGates.Time.Iso

/-! Powers of natural numbers are the ones of core. -/

attribute [local instance (2000)] instPowNat

/-- A byte that no part of a date or time is made of or ends at. -/
def IsInert (c : Char) : Prop :=
  c.isDigit = false ∧ ∀ d ∈ ['\x00', '-', 'W', ':', '.', ',', '+', 'Z'], c ≠ d

instance (c : Char) : Decidable (IsInert c) := @instDecidableAnd _ _ _ (List.decidableBAll ..)

variable {b c : Char} {cs ys : List Char}

/-! ## Digits -/

/-- Digits are read in front of what is none. -/
theorem digits?_append (n : Nat) (cs ys : List Char) (hc : c.isDigit = false) :
    digits? n (cs ++ c :: ys) = (digits? n cs).map fun read => (read.1, read.2 ++ c :: ys) := by
  unfold digits?
  dsimp only
  rcases Nat.lt_or_ge cs.length n with short | enough
  · have front : (cs ++ c :: ys).take n = cs ++ (c :: ys).take (n - cs.length) := by
      rw [List.take_append, List.take_of_length_le (Nat.le_of_lt short)]
    obtain ⟨k, more⟩ : ∃ k, n - cs.length = k + 1 := ⟨n - cs.length - 1, by omega⟩
    rw [if_neg, if_neg]
    · rfl
    · rintro ⟨same, -⟩
      rw [List.length_take] at same
      omega
    · rintro ⟨-, all⟩
      rw [front, more, List.take_succ_cons, List.all_append, List.all_cons, hc] at all
      simp at all
  · rw [List.take_append_of_le_length enough, List.drop_append_of_le_length enough]
    split <;> rfl

theorem digits?_eq_some {n value : Nat} {rest : List Char} (h : digits? n cs = some (value, rest)) :
    rest = cs.drop n ∧ n ≤ cs.length := by
  unfold digits? at h
  dsimp only at h
  split at h
  · rename_i front
    cases h
    rw [List.length_take] at front
    exact ⟨rfl, by omega⟩
  · cases h

/-! ## Times -/

/-- Microseconds in what ends the pairs of digits of a time. -/
def PairsEnd.microseconds? : PairsEnd → Option (Nat × Bool)
  | .finished stray => some (0, stray)
  | .fraction rest left => fraction? rest left

/-- The time of day of pairs of digits. -/
def timeOf (values : List Nat) (microsecond : Nat) : TimeOfDay :=
  ⟨values[0]?.getD 0, values[1]?.getD 0, values[2]?.getD 0, microsecond⟩

theorem time?_eq (cs : List Char) (left : Int) :
    time? cs left = (pairs? 3 none cs left).bind fun pairs =>
      pairs.2.microseconds?.map fun read => (timeOf pairs.1 read.1, read.2) := by
  unfold time?
  cases pairs? 3 none cs left with
  | none => rfl
  | some pairs =>
    obtain ⟨values, ending⟩ := pairs
    cases ending with
    | finished stray => rfl
    | fraction rest left =>
      show ((fraction? rest left).bind fun read => some (timeOf values read.1, read.2)) =
        (fraction? rest left).map fun read => (timeOf values read.1, read.2)
      cases fraction? rest left <;> rfl

/-! ### Before a mark -/

/-- What ends the pairs of digits, in a text that goes on. -/
def PairsEnd.followedBy (ys : List Char) : PairsEnd → PairsEnd
  | .finished stray => .finished stray
  | .fraction rest left => .fraction (rest ++ ys) left

/-- Reading a time does not go beyond such a character. -/
def IsStop (c : Char) : Prop := c.isDigit = false ∧ c ≠ ':' ∧ c ≠ '.' ∧ c ≠ ','

theorem peek_append (cs ys : List Char) (c : Char) :
    peek (cs ++ c :: ys) = cs.headD c := by
  cases cs <;> rfl

theorem exists_pairs?_append (stop : IsStop c) (count : Nat) (colons : Option Bool)
    (cs : List Char) (left : Int) :
    ∃ read : Option (List Nat × PairsEnd), ∀ ys, pairs? count colons (cs ++ c :: ys) left =
      read.map fun pairs => (pairs.1, pairs.2.followedBy (c :: ys)) := by
  obtain ⟨noDigit, noColon, noPoint, noComma⟩ := stop
  induction count generalizing colons cs left with
  | zero => exact ⟨some ([], .fraction cs left), fun ys => rfl⟩
  | succ count ih =>
    simp only [pairs?, digits?_append 2 cs _ noDigit]
    cases digits? 2 cs with
    | none => exact ⟨none, fun ys => rfl⟩
    | some first =>
      obtain ⟨value, rest⟩ := first
      simp only [Option.map_some, Option.bind_eq_bind, Option.bind_some, peek_append]
      generalize colons.getD (decide (rest.headD c = ':')) = withColons
      by_cases few : left - 3 ≤ 0
      · exact ⟨some ([value], .finished (rest.headD c ≠ '\x00')), fun ys => if_pos few⟩
      · simp only [if_neg few]
        have later (colons : Option Bool) (cs : List Char) (left : Int) :
            ∃ read : Option (List Nat × PairsEnd), ∀ ys,
              ((pairs? count colons (cs ++ c :: ys) left).bind fun pairs =>
                  some (value :: pairs.1, pairs.2)) =
                read.map fun pairs => (pairs.1, pairs.2.followedBy (c :: ys)) := by
          obtain ⟨read, same⟩ := ih colons cs left
          refine ⟨read.map fun pairs => (value :: pairs.1, pairs.2), fun ys => ?_⟩
          rw [same]
          cases read <;> rfl
        cases rest with
        | nil =>
          simp only [List.headD_nil, noColon, noPoint, noComma, and_false, or_false, if_false,
            List.nil_append]
          cases withColons with
          | true => exact ⟨none, fun ys => rfl⟩
          | false => exact later (some false) [] (left - 2)
        | cons next rest =>
          simp only [List.headD_cons, List.cons_append, List.drop_succ_cons, List.drop_zero]
          by_cases colon : withColons = true ∧ next = ':'
          · simp only [if_pos colon]
            exact later (some withColons) rest (left - 3)
          · simp only [if_neg colon]
            by_cases point : next = '.' ∨ next = ','
            · simp only [if_pos point]
              exact ⟨some ([value], .fraction rest (left - 3)), fun ys => rfl⟩
            · simp only [if_neg point]
              cases withColons with
              | true => exact ⟨none, fun ys => rfl⟩
              | false => exact later (some false) (next :: rest) (left - 2)

theorem peek_dropWhile_append (noDigit : c.isDigit = false) (cs ys : List Char) :
    peek ((cs ++ c :: ys).dropWhile Char.isDigit) = (cs.dropWhile Char.isDigit).headD c := by
  induction cs with
  | nil =>
    rw [List.nil_append, List.dropWhile_cons_of_neg (by simp [noDigit])]
    rfl
  | cons d cs ih =>
    rw [List.cons_append, List.dropWhile_cons, List.dropWhile_cons]
    split
    · exact ih
    · rfl

theorem fraction?_append (noDigit : c.isDigit = false) (cs ys : List Char) (left : Int) :
    fraction? (cs ++ c :: ys) left =
      (digits? (min 6 left.toNat) cs).map fun read =>
        (read.1 * 10 ^ (6 - min 6 left.toNat),
          decide ((read.2.dropWhile Char.isDigit).headD c ≠ '\x00')) := by
  unfold fraction?
  simp only [digits?_append _ cs ys noDigit]
  cases digits? (min 6 left.toNat) cs with
  | none => rfl
  | some read =>
    simp only [Option.map_some, Option.bind_eq_bind, Option.bind_some,
      peek_dropWhile_append noDigit]

/-- A time is read in front of a mark whatever follows that. -/
theorem time?_append (stop : IsStop c) (cs ys : List Char) (left : Int) :
    time? (cs ++ c :: ys) left = time? (cs ++ [c]) left := by
  obtain ⟨read, same⟩ := exists_pairs?_append stop 3 none cs left
  rw [time?_eq, time?_eq, same, same []]
  cases read with
  | none => rfl
  | some pairs =>
    obtain ⟨values, ending⟩ := pairs
    cases ending with
    | finished stray => rfl
    | fraction rest left =>
      simp only [Option.map_some, Option.bind_some, PairsEnd.followedBy, PairsEnd.microseconds?,
        fraction?_append stop.1]

/-! ### At the end of a text -/

theorem IsInert.ne_null (h : IsInert b) : b ≠ '\x00' := h.2 _ (by decide)

/-- An inert byte at the end is left over by a fraction, or was not reached by it. -/
theorem fraction?_of_inert (inert : IsInert b) {microsecond : Nat}
    (h : fraction? (cs ++ [b]) (cs.length + 1) = some (microsecond, false)) :
    fraction? cs cs.length = some (microsecond, false) ∧ 6 ≤ cs.length := by
  rw [fraction?_append inert.1] at h
  obtain ⟨⟨value, rest⟩, read, eq⟩ := Option.map_eq_some_iff.1 h
  obtain ⟨rfl, enough⟩ := digits?_eq_some read
  have six : 6 ≤ cs.length := by omega
  have count : min 6 ((cs.length : Int) + 1).toNat = 6 := by omega
  have same : min 6 ((cs.length : Int)).toNat = 6 := by omega
  rw [count] at read eq
  refine ⟨?_, six⟩
  unfold fraction?
  simp only [same, read, Option.bind_eq_bind, Option.bind_some]
  rw [← eq]
  congr 2
  -- the null character at which it ends stands in front of the inert byte
  have ends : ((cs.drop 6).dropWhile Char.isDigit).headD b = '\x00' := by
    exact Decidable.not_not.1 (of_decide_eq_false (congrArg Prod.snd eq))
  cases left : (cs.drop 6).dropWhile Char.isDigit with
  | nil =>
    rw [left] at ends
    exact absurd ends inert.ne_null
  | cons c rest =>
    rfl

/-- Pairs of digits that reach an inert byte at the end leave it over. -/
theorem pairs?_of_short (inert : IsInert b) {count : Nat} {colons : Option Bool}
    {left : Int} (short : ys.length < 2) (all : left = ys.length + 1) {values : List Nat}
    {ending : PairsEnd} (h : pairs? count colons (ys ++ [b]) left = some (values, ending))
    {microsecond : Nat} : ending.microseconds? ≠ some (microsecond, false) := by
  intro read
  subst all
  cases count with
  | zero =>
    cases h
    have enough := (fraction?_of_inert inert read).2
    omega
  | succ count =>
    simp only [pairs?, digits?_append 2 ys [] inert.1] at h
    cases first : digits? 2 ys with
    | none =>
      rw [first] at h
      cases h
    | some read =>
      have enough := (digits?_eq_some first).2
      omega

/-- How pairs of digits go on after the first, if there is room. -/
theorem pairs?_of_digits {count : Nat} {colons : Option Bool} {left : Int} {value : Nat}
    {next : Char} {rest : List Char} {withColons : Bool}
    (same : colons.getD (next = ':') = withColons)
    (first : digits? 2 cs = some (value, next :: rest)) (room : ¬left - 3 ≤ 0) :
    pairs? (count + 1) colons cs left =
      if withColons ∧ next = ':' then
        (pairs? count (some withColons) rest (left - 3)).map fun pairs =>
          (value :: pairs.1, pairs.2)
      else if next = '.' ∨ next = ',' then some ([value], .fraction rest (left - 3))
      else if !withColons then
        (pairs? count (some withColons) (next :: rest) (left - 2)).map fun pairs =>
          (value :: pairs.1, pairs.2)
      else none := by
  subst same
  rw [pairs?, first]
  simp only [Option.map_eq_bind]
  exact if_neg room

/-- Pairs of digits are read without an inert byte at the end as with it. -/
theorem pairs?_of_inert (inert : IsInert b) {count : Nat} {colons : Option Bool}
    {left : Int} (all : left = cs.length) {values : List Nat} {ending : PairsEnd}
    (h : pairs? count colons (cs ++ [b]) (left + 1) = some (values, ending))
    {microsecond : Nat} (read : ending.microseconds? = some (microsecond, false)) :
    ∃ ending, pairs? count colons cs left = some (values, ending) ∧
      ending.microseconds? = some (microsecond, false) := by
  induction count generalizing colons cs left values ending with
  | zero =>
    subst all
    cases h
    exact ⟨_, rfl, (fraction?_of_inert inert read).1⟩
  | succ count ih =>
    have longer := digits?_append 2 cs [] inert.1
    cases first : digits? 2 cs with
    | none =>
      rw [first] at longer
      rw [pairs?, longer] at h
      cases h
    | some pair =>
      obtain ⟨value, rest⟩ := pair
      obtain ⟨dropped, enough⟩ := digits?_eq_some first
      have length : rest.length = cs.length - 2 := by rw [dropped, List.length_drop]
      rw [first] at longer
      -- where more pairs follow, they are not cut short by the end of the text
      have later {colons : Option Bool} {cs : List Char} {left : Int} (all : left = cs.length)
          (h : ((pairs? count colons (cs ++ [b]) (left + 1)).map fun pairs =>
            (value :: pairs.1, pairs.2)) = some (values, ending)) :
          2 ≤ cs.length ∧ ∃ ending, ((pairs? count colons cs left).map fun pairs =>
            (value :: pairs.1, pairs.2)) = some (values, ending) ∧
              ending.microseconds? = some (microsecond, false) := by
        obtain ⟨⟨others, ending⟩, inner, eq⟩ := Option.map_eq_some_iff.1 h
        cases eq
        have long : ¬cs.length < 2 := fun short =>
          pairs?_of_short inert short (congrArg (· + 1) all) inner read
        obtain ⟨ending, inner, read⟩ := ih all inner read
        exact ⟨by omega, ending, by rw [inner]; rfl, read⟩
      cases rest with
      | nil =>
        rw [List.length_nil] at length
        rw [pairs?, longer] at h
        have h := (if_pos (show left + 1 - 3 ≤ 0 by omega)).symm.trans h
        cases h
        have stray : decide (b ≠ '\x00') = true := decide_eq_true inert.ne_null
        cases stray.symm.trans (congrArg Prod.snd (Option.some.inj read))
      | cons next rest =>
        rw [List.length_cons] at length
        rw [pairs?_of_digits rfl longer (by omega)] at h
        generalize same : colons.getD (decide (next = ':')) = withColons at h
        by_cases colon : withColons = true ∧ next = ':'
        · rw [if_pos colon, show left + 1 - 3 = left - 3 + 1 by omega] at h
          obtain ⟨long, found⟩ := later (by omega) h
          rwa [pairs?_of_digits same first (by omega), if_pos colon]
        · by_cases point : next = '.' ∨ next = ','
          · rw [if_neg colon, if_pos point, show left + 1 - 3 = rest.length + 1 by omega] at h
            cases h
            obtain ⟨found, long⟩ := fraction?_of_inert inert read
            rw [pairs?_of_digits same first (by omega), if_neg colon, if_pos point,
              show left - 3 = rest.length by omega]
            exact ⟨_, rfl, found⟩
          · rw [if_neg colon, if_neg point] at h
            cases withColons with
            | true => cases h
            | false =>
              rw [show left + 1 - 2 = left - 2 + 1 by omega] at h
              have others : left - 2 = (next :: rest).length := by
                rw [List.length_cons]
                omega
              obtain ⟨long, found⟩ := later others h
              rw [List.length_cons] at long
              rwa [pairs?_of_digits same first (by omega), if_neg colon, if_neg point]

theorem time?_of_inert (inert : IsInert b) {time : TimeOfDay}
    (h : time? (cs ++ [b]) (cs ++ [b]).length = some (time, false)) :
    time? cs cs.length = some (time, false) := by
  rw [List.length_append, List.length_singleton, Int.natCast_add, time?_eq] at h
  obtain ⟨⟨values, ending⟩, pairs, h⟩ := Option.bind_eq_some_iff.1 h
  obtain ⟨⟨microsecond, stray⟩, read, eq⟩ := Option.map_eq_some_iff.1 h
  cases eq
  obtain ⟨ending, pairs, read⟩ := pairs?_of_inert inert rfl pairs read
  rw [time?_eq, pairs]
  show ending.microseconds?.map _ = _
  rw [read]
  rfl

theorem offset?_of_inert (inert : IsInert b) {negative : Bool} {offset : Int}
    (h : offset? negative (cs ++ [b]) = some offset) : offset? negative cs = some offset := by
  unfold offset? at h ⊢
  obtain ⟨⟨time, stray⟩, read, h⟩ := Option.bind_eq_some_iff.1 h
  cases stray with
  | true => cases h
  | false =>
    rw [time?_of_inert inert read]
    exact h

/-- A character at which a time ends and an offset begins. -/
def isMark (c : Char) : Bool := c = '+' || c = '-' || c = 'Z'

theorem isStop_of_isMark (h : isMark c = true) : IsStop c := by
  simp only [isMark, Bool.or_eq_true, decide_eq_true_eq] at h
  rcases h with (rfl | rfl) | rfl <;> exact ⟨by decide, by decide, by decide, by decide⟩

theorem IsInert.isMark (h : IsInert b) : isMark b = false := by
  simp only [Iso.isMark, Bool.or_eq_false_iff, decide_eq_false_iff_not]
  exact ⟨⟨h.2 _ (by decide), h.2 _ (by decide)⟩, h.2 _ (by decide)⟩

theorem timeAndOffset?_of_unmarked (unmarked : ∀ c ∈ cs, isMark c = false) :
    timeAndOffset? cs = (time? cs cs.length).bind fun read =>
      if read.2 then none else some (read.1, 0) := by
  have clock : cs.takeWhile (fun c => !isMark c) = cs := by
    have all : (cs ++ []).takeWhile (fun c => !isMark c) = _ :=
      List.takeWhile_append_of_pos fun c mem => by rw [unmarked c mem]; rfl
    rwa [List.append_nil, List.takeWhile_nil, List.append_nil] at all
  unfold isMark at clock
  unfold timeAndOffset?
  dsimp only
  rw [clock, List.drop_length]
  rfl

theorem timeAndOffset?_of_marked {mark : Char} {clock rest : List Char}
    (unmarked : ∀ c ∈ clock, isMark c = false) (marked : isMark mark = true) :
    timeAndOffset? (clock ++ mark :: rest) =
      (time? (clock ++ [mark]) clock.length).bind fun read =>
        if mark = 'Z' then (if peek rest = '\x00' then some (read.1, 0) else none)
        else (offset? (mark = '-') rest).map fun offset => (read.1, offset) := by
  have front : (clock ++ mark :: rest).takeWhile (fun c => !isMark c) = clock := by
    rw [List.takeWhile_append_of_pos fun c mem => by rw [unmarked c mem]; rfl,
      List.takeWhile_cons_of_neg (by rw [marked]; exact Bool.false_ne_true), List.append_nil]
  unfold isMark at front
  unfold timeAndOffset?
  dsimp only
  rw [front, List.drop_left, time?_append (isStop_of_isMark marked)]
  cases time? (clock ++ [mark]) clock.length with
  | none => rfl
  | some read =>
    obtain ⟨time, stray⟩ := read
    by_cases zulu : mark = 'Z'
    · subst zulu
      rfl
    · simp only [Option.bind_some, if_neg zulu, Option.map_eq_bind]
      rfl

theorem timeAndOffset?_of_inert (inert : IsInert b) {time : TimeOfDay} {offset : Int}
    (h : timeAndOffset? (cs ++ [b]) = some (time, offset)) :
    timeAndOffset? cs = some (time, offset) := by
  have split_cs := List.takeWhile_append_dropWhile (p := fun c => !isMark c) (l := cs)
  have unmarked : ∀ c ∈ cs.takeWhile (fun c => !isMark c), isMark c = false := fun c mem => by
    simpa using List.all_eq_true.1 List.all_takeWhile c mem
  cases after : cs.dropWhile (fun c => !isMark c) with
  | nil =>
    rw [after, List.append_nil] at split_cs
    rw [split_cs] at unmarked
    have longer : ∀ c ∈ cs ++ [b], isMark c = false := by
      intro c mem
      rcases List.mem_append.1 mem with mem | mem
      · exact unmarked c mem
      · rw [List.mem_singleton.1 mem]
        exact inert.isMark
    rw [timeAndOffset?_of_unmarked longer] at h
    obtain ⟨⟨clock, stray⟩, read, eq⟩ := Option.bind_eq_some_iff.1 h
    cases stray with
    | true => cases eq
    | false =>
      rw [timeAndOffset?_of_unmarked unmarked, time?_of_inert inert read]
      exact eq
  | cons mark rest =>
    have marked : isMark mark = true := by
      have first := List.head?_dropWhile_not (fun c => !isMark c) cs
      rw [after] at first
      simpa using first
    rw [after] at split_cs
    rw [← split_cs, List.append_assoc, List.cons_append,
      timeAndOffset?_of_marked unmarked marked] at h
    rw [← split_cs, timeAndOffset?_of_marked unmarked marked]
    obtain ⟨⟨clock, stray⟩, read, eq⟩ := Option.bind_eq_some_iff.1 h
    rw [read]
    dsimp only [Option.bind_some] at eq ⊢
    by_cases zulu : mark = 'Z'
    · rw [if_pos zulu] at eq ⊢
      rw [peek_append] at eq
      cases rest with
      | nil =>
        rw [List.headD_nil, if_neg inert.ne_null] at eq
        cases eq
      | cons c rest => exact eq
    · rw [if_neg zulu] at eq ⊢
      obtain ⟨given, found, eq⟩ := Option.map_eq_some_iff.1 eq
      rw [offset?_of_inert inert found, Option.map_some, eq]

/-! ## Dates -/

theorem peek_drop (cs : List Char) (i : Nat) : peek (cs.drop i) = cs[i]?.getD '\x00' := by
  rw [peek, List.headD_eq_head?_getD, List.head?_drop]

/-- An inert byte at the end is taken for the end. -/
theorem apply_getD_of_inert {α : Type} {f : Char → α} (alike : f b = f '\x00') (cs : List Char)
    (i : Nat) : f ((cs ++ [b])[i]?.getD '\x00') = f (cs[i]?.getD '\x00') := by
  rcases Nat.lt_trichotomy i cs.length with inside | rfl | outside
  · rw [List.getElem?_append_left inside]
  · rw [List.getElem?_concat_length, List.getElem?_eq_none (Nat.le_refl _)]
    exact alike
  · rw [List.getElem?_eq_none (by rw [List.length_append, List.length_singleton]; omega),
      List.getElem?_eq_none (Nat.le_of_lt outside)]

theorem getD_eq_iff {d : Char} (other : b ≠ d) (noNull : '\x00' ≠ d) (cs : List Char) (i : Nat) :
    (cs ++ [b])[i]?.getD '\x00' = d ↔ cs[i]?.getD '\x00' = d := by
  have alike : decide (b = d) = decide ('\x00' = d) := by
    rw [decide_eq_false other, decide_eq_false noNull]
  exact decide_eq_decide.1 (apply_getD_of_inert (f := fun c => decide (c = d)) alike cs i)

theorem peek_eq_iff {d : Char} (other : b ≠ d) (noNull : '\x00' ≠ d) (cs : List Char) :
    peek (cs ++ [b]) = d ↔ peek cs = d := by
  have same := getD_eq_iff other noNull cs 0
  rwa [← peek_drop, ← peek_drop] at same

theorem drop_one_append {cs : List Char} {d : Char} (noNull : '\x00' ≠ d) (front : peek cs = d)
    (ys : List Char) : (cs ++ ys).drop 1 = cs.drop 1 ++ ys := by
  cases cs with
  | nil => exact absurd front noNull
  | cons c cs => rfl

theorem IsInert.ne_dash (h : IsInert b) : b ≠ '-' := h.2 _ (by decide)

theorem IsInert.ne_week (h : IsInert b) : b ≠ 'W' := h.2 _ (by decide)

theorem dash?_of_inert (inert : IsInert b) (dashed : Bool) (cs : List Char) :
    dash? dashed (cs ++ [b]) = (dash? dashed cs).map (· ++ [b]) := by
  cases dashed with
  | false => rfl
  | true =>
    unfold dash?
    simp only [peek_eq_iff inert.ne_dash (by decide), if_true]
    by_cases dash : peek cs = '-'
    · rw [if_pos dash, if_pos dash, drop_one_append (by decide) dash]
      rfl
    · rw [if_neg dash, if_neg dash]
      rfl

/-- A date is read without an inert byte at the end as with it. -/
theorem date?_of_inert (inert : IsInert b) (length : Nat) (cs : List Char) :
    date? length (cs ++ [b]) = date? length cs := by
  unfold date?
  rw [digits?_append 4 cs [] inert.1]
  cases digits? 4 cs with
  | none => rfl
  | some read =>
    obtain ⟨year, afterYear⟩ := read
    have afterDash : (if peek afterYear = '-' then (afterYear ++ [b]).drop 1
        else afterYear ++ [b]) =
          (if peek afterYear = '-' then afterYear.drop 1 else afterYear) ++ [b] := by
      split
      · rename_i dash
        exact drop_one_append (by decide) dash [b]
      · rfl
    simp only [Option.map_some, Option.bind_eq_bind, Option.bind_some,
      peek_eq_iff inert.ne_dash (by decide), afterDash]
    generalize (if peek afterYear = '-' then afterYear.drop 1 else afterYear) = rest
    simp only [peek_eq_iff inert.ne_week (by decide)]
    by_cases week : peek rest = 'W'
    · simp only [if_pos week, drop_one_append (by decide) week, digits?_append 2 _ [] inert.1]
      cases digits? 2 (rest.drop 1) with
      | none => rfl
      | some read =>
        simp only [Option.map_some, Option.bind_some, dash?_of_inert inert]
        generalize (if peek afterYear = '-' then 1 else 0) = dashes
        cases dash? (decide (peek afterYear = '-')) read.2 with
        | none => rfl
        | some afterWeek =>
          simp only [Option.map_some, Option.bind_some, digits?_append 1 _ [] inert.1]
          cases digits? 1 afterWeek <;> rfl
    · simp only [if_neg week, digits?_append 2 _ [] inert.1]
      cases digits? 2 rest with
      | none => rfl
      | some read =>
        simp only [Option.map_some, Option.bind_some, dash?_of_inert inert]
        cases dash? (decide (peek afterYear = '-')) read.2 with
        | none => rfl
        | some afterMonth =>
          simp only [Option.map_some, Option.bind_some, digits?_append 2 _ [] inert.1]
          cases digits? 2 afterMonth <;> rfl

theorem length_of_dash? {dashed : Bool} {rest : List Char} (h : dash? dashed cs = some rest) :
    rest.length + (if dashed then 1 else 0) = cs.length := by
  cases dashed with
  | false =>
    cases h
    rfl
  | true =>
    unfold dash? at h
    rw [if_pos rfl] at h
    split at h
    · rename_i dash
      cases h
      cases cs with
      | nil => exact absurd dash (by decide)
      | cons c cs => rfl
    · cases h

theorem length_of_digits? {n : Nat} {read : Nat × List Char} (h : digits? n cs = some read) :
    read.2.length + n = cs.length := by
  obtain ⟨value, rest⟩ := read
  obtain ⟨rfl, enough⟩ := digits?_eq_some h
  rw [List.length_drop]
  omega

/-- The length of two runs of digits, with or without a dash between them. -/
theorem length_of_parts {dashed : Bool} {first second : Nat}
    {f : Nat × List Char → Nat × List Char → Option Int} {day : Int}
    (h : (do
      let one ← digits? first cs
      let rest ← dash? dashed one.2
      let two ← digits? second rest
      f one two) = some day) :
    first + (if dashed then 1 else 0) + second ≤ cs.length := by
  obtain ⟨one, read, h⟩ := Option.bind_eq_some_iff.1 h
  obtain ⟨rest, dash, h⟩ := Option.bind_eq_some_iff.1 h
  obtain ⟨two, read', h⟩ := Option.bind_eq_some_iff.1 h
  have front := length_of_digits? read
  have middle := length_of_dash? dash
  have back := length_of_digits? read'
  omega

/-- How long a text is at least from which a date is read, by the form of the date. -/
theorem length_of_date? {length : Nat} {day : Int} (h : date? length cs = some day) :
    (if cs[4]?.getD '\x00' = '-' then
      if cs[5]?.getD '\x00' = 'W' then if 8 < length then 10 else 8 else 10
    else if cs[4]?.getD '\x00' = 'W' then if 7 < length then 8 else 7 else 8) ≤ cs.length := by
  unfold date? at h
  obtain ⟨⟨year, afterYear⟩, read, h⟩ := Option.bind_eq_some_iff.1 h
  obtain ⟨rfl, four⟩ := digits?_eq_some read
  simp only [peek_drop] at h
  have dropped (i : Nat) : (cs.drop i).length = cs.length - i := List.length_drop
  by_cases dashed : cs[4]?.getD '\x00' = '-'
  · simp only [dashed, if_true, decide_true, List.drop_drop, peek_drop, Nat.reduceAdd] at h ⊢
    by_cases week : cs[5]?.getD '\x00' = 'W'
    · simp only [week, if_true] at h ⊢
      by_cases day : 8 < length
      · simp only [day, if_true] at h ⊢
        have parts := length_of_parts h
        rw [dropped, if_pos rfl] at parts
        omega
      · simp only [day, if_false] at h ⊢
        obtain ⟨read, digits, h⟩ := Option.bind_eq_some_iff.1 h
        have parts := length_of_digits? digits
        rw [dropped] at parts
        omega
    · simp only [week, if_false] at h ⊢
      have parts := length_of_parts h
      rw [dropped, if_pos rfl] at parts
      omega
  · simp only [dashed, if_false, decide_false, List.drop_drop, peek_drop, Nat.reduceAdd] at h ⊢
    by_cases week : cs[4]?.getD '\x00' = 'W'
    · simp only [week, if_true] at h ⊢
      by_cases day : 7 < length
      · simp only [day, if_true] at h ⊢
        have parts := length_of_parts h
        rw [dropped] at parts
        omega
      · simp only [day, if_false] at h ⊢
        obtain ⟨read, digits, h⟩ := Option.bind_eq_some_iff.1 h
        have parts := length_of_digits? digits
        rw [dropped] at parts
        omega
    · simp only [week, if_false] at h ⊢
      have parts := length_of_parts h
      rw [dropped] at parts
      omega

/-! ### Where the date ends -/

theorem takeWhile_isDigit_of_inert (inert : IsInert b) (cs : List Char) :
    (cs ++ [b]).takeWhile Char.isDigit = cs.takeWhile Char.isDigit := by
  induction cs with
  | nil => exact List.takeWhile_cons_of_neg (by rw [inert.1]; exact Bool.false_ne_true)
  | cons c cs ih =>
    rw [List.cons_append, List.takeWhile_cons, List.takeWhile_cons, ih]

theorem drop_isDigit_of_inert (inert : IsInert b) (cs : List Char) (n : Nat) :
    ((cs ++ [b]).drop n).takeWhile Char.isDigit = (cs.drop n).takeWhile Char.isDigit := by
  rcases Nat.lt_or_ge cs.length n with short | enough
  · rw [List.drop_eq_nil_of_le (Nat.le_of_lt short),
      List.drop_eq_nil_of_le (by rw [List.length_append, List.length_singleton]; omega)]
  · rw [List.drop_append_of_le_length enough, takeWhile_isDigit_of_inert inert]

/-- A date that is read ends before an inert byte at the end of the text. -/
theorem dateLength?_le (inert : IsInert b) {length : Nat} {day : Int}
    (ends : dateLength? (cs ++ [b]) = some length) (date : date? length cs = some day) :
    7 ≤ length ∧ length ≤ cs.length := by
  have long := length_of_date? date
  have seven : 7 ≤ cs.length := by
    refine Nat.le_trans ?_ long
    repeat' split
    all_goals omega
  have digits : ((cs.drop 7).takeWhile Char.isDigit).length ≤ (cs.drop 7).length :=
    (List.takeWhile_sublist _).length_le
  rw [List.length_drop] at digits
  unfold dateLength? at ends
  simp only [getD_eq_iff inert.ne_dash (by decide), getD_eq_iff inert.ne_week (by decide),
    drop_isDigit_of_inert inert, List.length_append, List.length_singleton,
    show ¬cs.length + 1 = 7 by omega, if_false] at ends
  by_cases dash : cs[4]?.getD '\x00' = '-'
  · rw [if_pos dash] at ends long
    by_cases week : cs[5]?.getD '\x00' = 'W'
    · rw [if_pos week] at ends long
      have forms : length = 8 ∨ length = 10 := by
        repeat' split at ends
        all_goals cases ends
        all_goals decide
      split at long <;> omega
    · rw [if_neg week] at ends long
      cases ends
      omega
  · rw [if_neg dash] at ends long
    by_cases week : cs[4]?.getD '\x00' = 'W'
    · rw [if_pos week] at ends
      repeat' split at ends
      all_goals cases ends
      all_goals omega
    · rw [if_neg week] at ends long
      cases ends
      omega

/-- In a long text an inert byte at the end does not matter to where the date ends. -/
theorem dateLength?_of_inert (inert : IsInert b) (long : 10 ≤ cs.length) :
    dateLength? (cs ++ [b]) = dateLength? cs := by
  have alike : b.isDigit = Char.isDigit '\x00' := inert.1
  have inside : 10 < cs.length ∧ (cs[10]?.getD '\x00').isDigit = true ↔
      (cs[10]?.getD '\x00').isDigit = true := by
    refine and_iff_right_of_imp fun digit => Nat.lt_of_not_le fun short => ?_
    rw [List.getElem?_eq_none short] at digit
    exact absurd digit (by decide)
  unfold dateLength?
  simp only [getD_eq_iff inert.ne_dash (by decide), getD_eq_iff inert.ne_week (by decide),
    drop_isDigit_of_inert inert, List.length_append, List.length_singleton,
    apply_getD_of_inert alike, inside, show ¬cs.length + 1 = 7 by omega,
    show ¬cs.length = 7 by omega, show cs.length + 1 > 8 by omega, show cs.length > 8 by omega,
    show ¬cs.length + 1 = 9 by omega, show ¬cs.length = 9 by omega,
    show cs.length + 1 > 10 by omega, true_and]

/-! ## Instants -/

theorem one_le_widthOf (c : Char) : 1 ≤ widthOf c := by
  unfold widthOf
  repeat' split
  all_goals decide

/-- A time takes two digits at least. -/
theorem two_le_of_timeAndOffset? {read : TimeOfDay × Int} (h : timeAndOffset? cs = some read) :
    2 ≤ cs.length := by
  unfold timeAndOffset? at h
  obtain ⟨⟨time, stray⟩, clock, -⟩ := Option.bind_eq_some_iff.1 h
  rw [time?_eq] at clock
  obtain ⟨pairs, first, -⟩ := Option.bind_eq_some_iff.1 clock
  rw [pairs?] at first
  obtain ⟨digits, read, -⟩ := Option.bind_eq_some_iff.1 first
  exact Nat.le_trans (Nat.le_add_left ..) (Nat.le_of_eq (length_of_digits? read))

/-- The bytes of an instant name it without an inert byte at the end as with it. -/
theorem ofBytes?_of_inert (inert : IsInert b) {i : Instant} (h : ofBytes? (cs ++ [b]) = some i) :
    ofBytes? cs = some i := by
  unfold ofBytes? at h
  split at h
  · cases h
  · obtain ⟨length, ends, h⟩ := Option.bind_eq_some_iff.1 h
    obtain ⟨day, date, h⟩ := Option.bind_eq_some_iff.1 h
    rw [date?_of_inert inert] at date
    obtain ⟨seven, fits⟩ := dateLength?_le inert ends date
    dsimp only at h
    rw [List.drop_append_of_le_length fits, if_neg (by simp)] at h
    obtain ⟨⟨time, offset⟩, clock, h⟩ := Option.bind_eq_some_iff.1 h
    generalize eq : cs.drop length = rest at clock
    have parts := congrArg List.length eq
    rw [List.length_drop] at parts
    -- the time is told after the character that separates it from the date
    have some_clock := two_le_of_timeAndOffset? clock
    rw [List.length_drop, List.length_append, List.length_singleton] at some_clock
    cases rest with
    | nil =>
      have wide := one_le_widthOf (peek ([] ++ [b]))
      rw [List.length_nil] at some_clock
      omega
    | cons separator others =>
      have wide := one_le_widthOf separator
      have separated : widthOf (peek (separator :: others ++ [b])) = widthOf separator := rfl
      rw [separated] at clock some_clock
      rw [List.length_cons] at parts some_clock
      rw [List.drop_append_of_le_length (by rw [List.length_cons]; omega)] at clock
      have found := timeAndOffset?_of_inert inert clock
      have some_time := two_le_of_timeAndOffset? found
      rw [List.length_drop, List.length_cons] at some_time
      rw [dateLength?_of_inert inert (by omega)] at ends
      unfold ofBytes?
      rw [if_neg (by omega), ends]
      simp only [Option.bind_eq_bind, Option.bind_some, date, eq]
      show (timeAndOffset? ((separator :: others).drop (widthOf separator))).bind _ = _
      rw [found]
      exact h

theorem ofBytes?_append (inert : ∀ c ∈ ys, IsInert c) {i : Instant}
    (h : ofBytes? (cs ++ ys) = some i) : ofBytes? cs = some i := by
  induction ys generalizing cs with
  | nil => rwa [List.append_nil] at h
  | cons c ys ih =>
    obtain ⟨first, others⟩ := List.forall_mem_cons.1 inert
    rw [List.append_cons] at h
    exact ofBytes?_of_inert first (ih others h)

/-- No instant begins with an inert byte. -/
theorem ofBytes?_cons_of_inert (inert : IsInert b) (ys : List Char) :
    ofBytes? (b :: ys) = none := by
  have noYear : digits? 4 (b :: ys) = none := digits?_append 4 [] ys inert.1
  have noDate (length : Nat) : date? length (b :: ys) = none := by
    unfold date?
    rw [noYear]
    rfl
  unfold ofBytes?
  split
  · rfl
  · cases dateLength? (b :: ys) with
    | none => rfl
    | some length =>
      simp only [Option.bind_eq_bind, Option.bind_some, noDate, Option.bind_none]

/-! ## White space -/

theorem toList_loop_eq (bytes : ByteArray) (i : Nat) (front : List UInt8) :
    ByteArray.toList.loop bytes i front = front.reverse ++ bytes.data.toList.drop i := by
  fun_induction ByteArray.toList.loop bytes i front with
  | case1 i front inside ih =>
    have inside : i < bytes.data.size := inside
    have listed : i < bytes.data.toList.length := by rwa [Array.length_toList]
    have byte : bytes.get! i = bytes.data.toList[i] :=
      (getElem!_pos bytes.data i inside).trans (Array.getElem_toList listed).symm
    rw [ih, List.reverse_cons, List.append_assoc, List.drop_eq_getElem_cons listed, byte]
    rfl
  | case2 i front outside =>
    rw [List.drop_eq_nil_of_le, List.append_nil]
    simpa using outside

/-- The bytes of a text, each as a character. -/
def bytesOf (cs : List Char) : List Char :=
  (cs.flatMap String.utf8EncodeChar).map fun byte => Char.ofNat byte.toNat

theorem bytesOf_append (cs ys : List Char) : bytesOf (cs ++ ys) = bytesOf cs ++ bytesOf ys := by
  rw [bytesOf, List.flatMap_append, List.map_append]
  rfl

theorem read?_ofList (cs : List Char) : read? (String.ofList cs) = ofBytes? (bytesOf cs) := by
  have bytes : (String.ofList cs).toUTF8.toList = cs.flatMap String.utf8EncodeChar := by
    show ByteArray.toList.loop (String.ofList cs).toByteArray 0 [] = _
    rw [toList_loop_eq, String.toByteArray_ofList]
    exact List.toList_data_toByteArray
  rw [read?, bytes]
  rfl

/-- The codes of white space. -/
def blankCodes : List Nat :=
  List.range' 9 5 ++ List.range' 28 5 ++ [0x85, 0xA0, 0x1680] ++ List.range' 0x2000 11
    ++ [0x2028, 0x2029, 0x202F, 0x205F, 0x3000]

theorem toNat_mem_blankCodes {c : Char} (h : Text.isBlank c = true) : c.toNat ∈ blankCodes := by
  simp only [Text.isBlank, Bool.or_eq_true, Bool.and_eq_true, decide_eq_true_eq, beq_iff_eq] at h
  simp only [blankCodes, List.mem_append, List.mem_range'_1, List.mem_cons, List.not_mem_nil]
  omega

theorem isInert_of_blankCode {code : Nat} (h : code ∈ blankCodes) {byte : UInt8}
    (inside : byte ∈ String.utf8EncodeChar (Char.ofNat code)) :
    IsInert (Char.ofNat byte.toNat) := by
  have all : blankCodes.all (fun code => (String.utf8EncodeChar (Char.ofNat code)).all
      fun byte => decide (IsInert (Char.ofNat byte.toNat))) = true := by decide +kernel
  exact of_decide_eq_true (List.all_eq_true.1 (List.all_eq_true.1 all code h) byte inside)

theorem isInert_of_isBlank {cs : List Char} (blank : ∀ c ∈ cs, Text.isBlank c = true) :
    ∀ b ∈ bytesOf cs, IsInert b := by
  intro b mem
  obtain ⟨byte, inside, rfl⟩ := List.mem_map.1 mem
  obtain ⟨c, given, inside⟩ := List.mem_flatMap.1 inside
  rw [← Char.ofNat_toNat c] at inside
  exact isInert_of_blankCode (toNat_mem_blankCodes (blank c given)) inside

/-- A text that names an instant does not begin with white space. -/
theorem not_isBlank_of_ofBytes? {i : Instant} (h : ofBytes? (bytesOf cs) = some i) :
    cs.dropWhile Text.isBlank = cs := by
  cases cs with
  | nil => rfl
  | cons c rest =>
    refine List.dropWhile_cons_of_neg fun blank => ?_
    have inert : ∀ b ∈ bytesOf [c], IsInert b :=
      isInert_of_isBlank fun d mem => List.mem_singleton.1 mem ▸ blank
    have front := bytesOf_append [c] rest
    cases bytes : bytesOf [c] with
    | nil =>
      have some_bytes : (String.utf8EncodeChar c).length = 0 := by
        have none := congrArg List.length bytes
        rwa [bytesOf, List.length_map, List.flatMap_singleton] at none
      have width := c.utf8Size_pos
      rw [String.length_utf8EncodeChar] at some_bytes
      omega
    | cons b others =>
      rw [bytes] at front inert
      rw [show bytesOf (c :: rest) = b :: (others ++ bytesOf rest) from front,
        ofBytes?_cons_of_inert (inert b List.mem_cons_self)] at h
      cases h

/-- A text that names an instant names the same one without the white space at its ends. -/
theorem read?_trim {s : String} {i : Instant} (h : read? s = some i) :
    read? (String.ofList (Text.trim Text.isBlank s.toList)) = some i := by
  rw [← String.ofList_toList (s := s), read?_ofList] at h
  generalize s.toList = cs at h ⊢
  have kept : Text.trim Text.isBlank cs ++ (cs.reverse.takeWhile Text.isBlank).reverse = cs := by
    rw [Text.trim, not_isBlank_of_ofBytes? h, ← List.reverse_append,
      List.takeWhile_append_dropWhile, List.reverse_reverse]
  have blank : ∀ c ∈ (cs.reverse.takeWhile Text.isBlank).reverse, Text.isBlank c = true :=
    fun c mem => List.all_eq_true.1 List.all_takeWhile c (List.mem_reverse.1 mem)
  rw [← kept, bytesOf_append] at h
  rw [read?_ofList]
  exact ofBytes?_append (isInert_of_isBlank blank) h

end FeatureGates.Time.Iso
