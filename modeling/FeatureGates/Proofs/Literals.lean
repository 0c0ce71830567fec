import FeatureGates.Proofs.ShortValues

/-!
# Literals

A literal is what object notation is written in: short scalars, lists,
tuples, records with text keys, and ready-made trees with short leaves
(`Value.isLiteral`). A literal can always be quoted
(`Value.written_of_isLiteral`), which a value with an integer too long to
write cannot.
-/

namespace FeatureGates

namespace Value

def isText : Value → Bool
  | .text _ => true
  | _ => false

theorem eq_text_of_isText {value : Value} (h : value.isText = true) :
    ∃ name, value = .text name := by
  unfold isText at h
  split at h
  · exact ⟨_, rfl⟩
  · cases h

mutual

/-- Made of short scalars, lists, tuples, records with text keys and ready-made trees with
short leaves. -/
def isLiteral : Value → Bool
  | .scalar s => s.isShort
  | .node tree => tree.isShort
  | .list items => areLiterals items
  | .tuple items => areLiterals items
  | .record entries => areLiteralEntries entries
  | _ => false

def areLiterals : List Value → Bool
  | [] => true
  | item :: rest => isLiteral item && areLiterals rest

def areLiteralEntries : List (Value × Value) → Bool
  | [] => true
  | (key, value) :: rest => key.isText && isLiteral value && areLiteralEntries rest

end

end Value

namespace Value

mutual

theorem isShort_of_isLiteral : (value : Value) → value.isLiteral = true → value.isShort = true
  | .scalar _, h => h
  | .node _, h => h
  | .list items, h => areShort_of_areLiterals items h
  | .tuple items, h => areShort_of_areLiterals items h
  | .record entries, h => areShortEntries_of_areLiteralEntries entries h

theorem areShort_of_areLiterals : (items : List Value) → areLiterals items = true →
    areShort items = true
  | [], _ => rfl
  | item :: rest, h => by
    obtain ⟨first, others⟩ := Bool.and_eq_true_iff.1 h
    rw [areShort, isShort_of_isLiteral item first, areShort_of_areLiterals rest others]
    rfl

theorem areShortEntries_of_areLiteralEntries : (entries : Entries) →
    areLiteralEntries entries = true → areShortEntries entries = true
  | [], _ => rfl
  | (key, value) :: rest, h => by
    obtain ⟨first, others⟩ := Bool.and_eq_true_iff.1 h
    obtain ⟨isText, literal⟩ := Bool.and_eq_true_iff.1 first
    obtain ⟨name, rfl⟩ := eq_text_of_isText isText
    rw [areShortEntries, isShort_of_isLiteral value literal,
      areShortEntries_of_areLiteralEntries rest others]
    rfl

end

/-- A literal can be quoted. -/
theorem written_of_isLiteral (value : Value) (h : value.isLiteral = true) :
    ∃ text, value.written = .ok text :=
  written_of_isShort (isShort_of_isLiteral value h)

theorem areLiterals_iff {items : List Value} :
    areLiterals items = true ↔ ∀ item ∈ items, item.isLiteral = true := by
  induction items with
  | nil => exact iff_of_true rfl fun _ mem => absurd mem List.not_mem_nil
  | cons first rest ih => rw [areLiterals, Bool.and_eq_true, ih, List.forall_mem_cons]

theorem checkOrdered_texts (names : List String) :
    checkOrdered (names.map .text) = .ok () := by
  induction names with
  | nil => rfl
  | cons first rest ih =>
    cases rest with
    | nil => rfl
    | cons second rest => exact ih

/-- The keys of a literal are texts. -/
theorem keys_of_areLiteralEntries {entries : Entries} (h : areLiteralEntries entries = true) :
    ∃ names : List String, entries.map (·.1) = names.map .text := by
  induction entries with
  | nil => exact ⟨[], rfl⟩
  | cons entry rest ih =>
    obtain ⟨first, others⟩ := Bool.and_eq_true_iff.1 h
    obtain ⟨name, same⟩ := eq_text_of_isText (Bool.and_eq_true_iff.1 first).1
    obtain ⟨names, keys⟩ := ih others
    exact ⟨name :: names, by rw [List.map_cons, List.map_cons, same, keys]⟩

end Value

namespace Node

/-- What is said of the keys of a literal can be said. -/
theorem wrongKeyCount_of_areLiteralEntries {entries : Entries}
    (h : Value.areLiteralEntries entries = true) :
    ∃ keys, wrongKeyCount entries = .ok (.wrongKeyCount keys) := by
  obtain ⟨names, keys⟩ := Value.keys_of_areLiteralEntries h
  have literal :
      (Value.list ((entries.map (·.1)).mergeSort Value.notGreater)).isLiteral = true := by
    refine Value.areLiterals_iff.2 fun key mem => ?_
    rw [keys, List.mem_mergeSort] at mem
    obtain ⟨name, -, rfl⟩ := List.mem_map.1 mem
    rfl
  obtain ⟨text, quoted⟩ := Value.written_of_isLiteral _ literal
  have ordered : Value.checkOrdered (entries.map (·.1)) = .ok () :=
    keys ▸ Value.checkOrdered_texts names
  refine ⟨text, ?_⟩
  rw [wrongKeyCount, Value.sorted, ordered]
  show (do return Failure.wrongKeyCount (← Value.written _)) = _
  rw [quoted]
  rfl

end Node

end FeatureGates
