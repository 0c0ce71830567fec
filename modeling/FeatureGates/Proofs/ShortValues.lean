import FeatureGates.Proofs.Merging
import FeatureGates.Proofs.Percentages
import FeatureGates.Proofs.Trees

/-!
# Values that can be written

An integer with too many digits has no text, and so has nothing that shows
it. A value without such integers, at whatever depth, is short
(`Value.isShort`), and so is what is found under a name in it
(`Value.isShort_of_member?`).

Writing a value fails over nothing but an integer that is too long, and only
where the value is not short (`Value.bounded_written`). So a short value can
be written (`Value.written_of_isShort`), and any other is written or fails
over something too large (`Bounded`).
-/

namespace FeatureGates

/-! Powers of natural numbers are the ones of core. -/

attribute [local instance (2000)] instPowNat

variable {α β : Type}

namespace Value

mutual

/-- No integer in the value is too long to write. A percentage never is. -/
def isShort : Value → Bool
  | .scalar s => s.isShort
  | .list items => areShort items
  | .tuple items => areShort items
  | .set items => areShort items
  | .record entries => areShortEntries entries
  | .actor id properties => isShort id && isShort properties
  | .object attributes => areShortAttributes attributes
  | .node tree => tree.isShort
  | .wrapped thing => isShortWrapped thing

def areShort : List Value → Bool
  | [] => true
  | item :: rest => isShort item && areShort rest

def areShortEntries : List (Value × Value) → Bool
  | [] => true
  | (key, value) :: rest => isShort key && isShort value && areShortEntries rest

def areShortAttributes : List (String × Value) → Bool
  | [] => true
  | (_, value) :: rest => isShort value && areShortAttributes rest

def isShortWrapped : Wrapped → Bool
  | .actor thing _ => isShort thing
  | .group name => isShort name
  | .boolean value => isShort value
  | .percentageOfActors _ => true
  | .percentageOfTime _ => true
  | .expression tree => tree.isShort

end

end Value

/-! ## Failures over what is too large -/

/-- An integer is too large for a floating-point number, or too long for a text. -/
def Failure.isOversize : Failure → Bool
  | .intTooLarge => true
  | .numberTooLong => true
  | _ => false

/-- `Q` is so of the result, or it is a failure over something too large, and that only where `M`
is not so. -/
def Bounded (M : Prop) (Q : α → Prop) : Except Failure α → Prop
  | .ok a => Q a
  | .error failure => failure.isOversize = true ∧ ¬M

namespace Bounded

variable {M : Prop} {P : α → Prop} {Q : β → Prop} {result : Except Failure α}

theorem bind {f : α → Except Failure β} (h : Bounded M P result)
    (hf : ∀ a, P a → Bounded M Q (f a)) : Bounded M Q (result >>= f) := by
  cases result with
  | ok a => exact hf a h
  | error failure => exact h

theorem map {f : α → β} (h : Bounded M P result) (hf : ∀ a, P a → Q (f a)) :
    Bounded M Q (result.map f) := by
  cases result with
  | ok a => exact hf a h
  | error failure => exact h

theorem of_exists {P : α → Prop} (h : ∃ a, result = .ok a ∧ P a) : Bounded M P result := by
  obtain ⟨a, rfl, ha⟩ := h
  exact ha

theorem exists_ok (h : Bounded M P result) (m : M) : ∃ a, result = .ok a := by
  cases result with
  | ok a => exact ⟨a, rfl⟩
  | error failure => exact absurd m h.2

end Bounded

/-- Whatever it is of. -/
abbrev Any (_ : α) : Prop := True

theorem Bounded.self {M : Prop} {P : α → Prop} {result : Except Failure α}
    (h : Bounded M P result) : Bounded M (fun a => result = .ok a) result := by
  cases result with
  | ok a => rfl
  | error failure => exact h

/-! ## Writing -/

/-! The longest integer is not to be computed. -/

attribute [local irreducible] Text.digitLimit

section

variable {M : Prop}

theorem Text.bounded_writeInt {n : Int} (h : M → n.natAbs < 10 ^ digitLimit) :
    Bounded M Any (writeInt n) := by
  unfold writeInt
  split
  · exact trivial
  · rename_i long
    exact ⟨rfl, fun m => long (h m)⟩

theorem Scalar.bounded_written {s : Scalar} (h : M → s.isShort = true) :
    Bounded M Any s.written := by
  cases s with
  | null => exact trivial
  | bool b => cases b <;> exact trivial
  | text s => exact trivial
  | number n =>
    cases n with
    | int n => exact Text.bounded_writeInt fun m => of_decide_eq_true (h m)
    | float x => exact trivial

theorem Percentage.bounded_written (p : Percentage) : Bounded M Any p.value.written := by
  obtain ⟨text, _, written, -⟩ := p.exists_read
  exact .of_exists ⟨text, written, trivial⟩

namespace Node

mutual

theorem bounded_writtenObject : (tree : Node) → (M → tree.isShort = true) →
    Bounded M Any tree.writtenObject
  | .constant value, h => by
    rw [writtenObject]
    exact value.bounded_written h
  | .call _ args, h => by
    rw [writtenObject]
    exact (bounded_writtenObjects args h).bind fun _ _ => trivial

theorem bounded_writtenObjects : (trees : List Node) → (M → areShort trees = true) →
    Bounded M Any (writtenObjects trees)
  | [], _ => by
    rw [writtenObjects]
    exact trivial
  | tree :: rest, h => by
    have parts (m : M) := Bool.and_eq_true_iff.1 (h m)
    rw [writtenObjects]
    exact (bounded_writtenObject tree fun m => (parts m).1).bind fun _ _ =>
      (bounded_writtenObjects rest fun m => (parts m).2).bind fun _ _ => trivial

end

end Node

namespace Value

mutual

/-- Writing a value fails only over an integer that is too long. -/
theorem bounded_written : (value : Value) → (M → value.isShort = true) →
    Bounded M Any value.written
  | .scalar s, h => by
    rw [written]
    exact s.bounded_written h
  | .list items, h => by
    rw [written]
    exact (bounded_writtenAll items h).bind fun _ _ => trivial
  | .tuple items, h => by
    rw [written]
    exact (bounded_writtenAll items h).bind fun _ _ => trivial
  | .set items, h => by
    rw [written]
    exact (bounded_writtenAll items h).bind fun _ _ => trivial
  | .record entries, h => by
    rw [written]
    exact (bounded_writtenEntries entries h).bind fun _ _ => trivial
  | .actor id properties, h => by
    have parts (m : M) := Bool.and_eq_true_iff.1 (h m)
    rw [written]
    exact (bounded_written id fun m => (parts m).1).bind fun _ _ =>
      (bounded_written properties fun m => (parts m).2).bind fun _ _ => trivial
  | .object attributes, h => by
    rw [written]
    exact (bounded_writtenAttributes attributes h).bind fun _ _ => trivial
  | .node tree, h => by
    rw [written]
    exact (tree.bounded_writtenObject h).bind fun _ _ => trivial
  | .wrapped thing, h => by
    rw [written]
    exact bounded_writtenWrapped thing h

theorem bounded_writtenAll : (items : List Value) → (M → areShort items = true) →
    Bounded M Any (writtenAll items)
  | [], _ => by
    rw [writtenAll]
    exact trivial
  | item :: rest, h => by
    have parts (m : M) := Bool.and_eq_true_iff.1 (h m)
    rw [writtenAll]
    exact (bounded_written item fun m => (parts m).1).bind fun _ _ =>
      (bounded_writtenAll rest fun m => (parts m).2).bind fun _ _ => trivial

theorem bounded_writtenEntries : (entries : Entries) → (M → areShortEntries entries = true) →
    Bounded M Any (writtenEntries entries)
  | [], _ => by
    rw [writtenEntries]
    exact trivial
  | (key, value) :: rest, h => by
    have parts (m : M) := Bool.and_eq_true_iff.1 (h m)
    have entry (m : M) := Bool.and_eq_true_iff.1 (parts m).1
    rw [writtenEntries]
    exact (bounded_written key fun m => (entry m).1).bind fun _ _ =>
      (bounded_written value fun m => (entry m).2).bind fun _ _ =>
      (bounded_writtenEntries rest fun m => (parts m).2).bind fun _ _ => trivial

theorem bounded_writtenAttributes : (attributes : List (String × Value)) →
    (M → areShortAttributes attributes = true) → Bounded M Any (writtenAttributes attributes)
  | [], _ => by
    rw [writtenAttributes]
    exact trivial
  | (_, value) :: rest, h => by
    have parts (m : M) := Bool.and_eq_true_iff.1 (h m)
    rw [writtenAttributes]
    exact (bounded_written value fun m => (parts m).1).bind fun _ _ =>
      (bounded_writtenAttributes rest fun m => (parts m).2).bind fun _ _ => trivial

theorem bounded_writtenWrapped : (thing : Wrapped) → (M → isShortWrapped thing = true) →
    Bounded M Any (writtenWrapped thing)
  | .actor _ _, _ => by
    rw [writtenWrapped]
    exact trivial
  | .group name, h => by
    rw [writtenWrapped]
    exact (bounded_written name h).bind fun _ _ => trivial
  | .boolean value, h => by
    rw [writtenWrapped]
    exact (bounded_written value h).bind fun _ _ => trivial
  | .percentageOfActors p, _ => by
    rw [writtenWrapped]
    exact p.bounded_written.bind fun _ _ => trivial
  | .percentageOfTime p, _ => by
    rw [writtenWrapped]
    exact p.bounded_written.bind fun _ _ => trivial
  | .expression tree, h => by
    rw [writtenWrapped]
    exact (tree.bounded_writtenObject h).bind fun _ _ => trivial

end

theorem bounded_shown (value : Value) (h : M → value.isShort = true) :
    Bounded M Any value.shown := by
  unfold shown
  split
  · exact trivial
  · exact bounded_written value h

end Value

end

namespace Value

/-- A short value can be written. -/
theorem written_of_isShort {value : Value} (h : value.isShort = true) :
    ∃ text, value.written = .ok text :=
  (bounded_written value id).exists_ok h

/-- A short value can be shown. -/
theorem shown_of_isShort {value : Value} (h : value.isShort = true) :
    ∃ text, value.shown = .ok text :=
  (bounded_shown value id).exists_ok h

/-! ## Members -/

theorem isShort_of_get? {entries : Entries} (h : areShortEntries entries = true) {name : String}
    {value : Value} (found : entries.get? name = some value) : value.isShort = true := by
  induction entries with
  | nil => cases found
  | cons entry rest ih =>
    obtain ⟨key, held⟩ := entry
    obtain ⟨first, others⟩ := Bool.and_eq_true_iff.1 h
    rcases key.text_or_not with ⟨own, rfl⟩ | foreign
    · rw [Entries.get?] at found
      split at found
      · cases found
        exact (Bool.and_eq_true_iff.1 first).2
      · exact ih others found
    · rw [Entries.get?_of_not_text foreign] at found
      exact ih others found

theorem isShort_of_lookup {rows : List (String × Value)} (h : areShortAttributes rows = true)
    {name : String} {value : Value} (found : rows.lookup name = some value) :
    value.isShort = true := by
  induction rows with
  | nil => cases found
  | cons row rest ih =>
    obtain ⟨own, held⟩ := row
    obtain ⟨first, others⟩ := Bool.and_eq_true_iff.1 h
    rw [List.lookup_cons] at found
    split at found
    · cases found
      exact first
    · exact ih others found

/-- What is found under a name in a short value is short. -/
theorem isShort_of_member? {thing value : Value} {name : String} (h : thing.isShort = true)
    (found : thing.member? name = some value) : value.isShort = true := by
  unfold member? at found
  split at found
  · exact isShort_of_get? h found
  · exact isShort_of_lookup h found
  · obtain ⟨first, second⟩ := Bool.and_eq_true_iff.1 h
    split at found
    · cases found
      exact first
    · split at found
      · cases found
        exact second
      · cases found
  · cases found

end Value

end FeatureGates
