import FeatureGates.Proofs.Changes
import FeatureGates.Proofs.NumberText
import FeatureGates.Proofs.Trees

/-!
# How cells represent typed values

A gate's typed value is represented by a cell, or by the lack of one, in
one of a few ways (`Stored`): a truth value as the text `true`, a set as
the set of its texts, a record as a document, a number as a text that is
read as that number. Records represent a catalog if every feature that
exists in one exists in the other, and all cells of all features represent
the values there (`Records.Represents`).

What is represented is what is read (`Records.Represents.typed`).
-/

namespace FeatureGates

/-! ## Sets and records as values -/

/-- A record that may be missing. -/
def Value.ofRecord? : Option Entries → Value
  | some entries => .record entries
  | none => .null

theorem Value.ofRecord?_injective {a b : Option Entries} (h : ofRecord? a = ofRecord? b) :
    a = b := by
  cases a <;> cases b <;> cases h <;> rfl

theorem NameSet.ofList_names (names : NameSet) : NameSet.ofList names.names = names :=
  NameSet.ext_mem fun _ => NameSet.mem_ofList

theorem GateValues.setOfNames_injective {a b : NameSet} (h : setOfNames a = setOfNames b) :
    a = b := by
  have texts : a.names.map Value.text = b.names.map Value.text := by
    injection h
  have text_inj (x y : String) (eq : Value.text x = Value.text y) : x = y := by
    injection eq with eq
    injection eq
  have same : a.names = b.names := (List.map_inj_right text_inj).1 texts
  rw [← a.ofList_names, ← b.ofList_names, same]

namespace Raw

theorem mem_of_mapM {f : Value → Except Failure String} {items : List Value} {texts : List String}
    (h : items.mapM f = .ok texts) (text : String) :
    text ∈ texts ↔ ∃ item ∈ items, f item = .ok text := by
  induction items generalizing texts with
  | nil =>
    cases h
    simp
  | cons item rest ih =>
    rw [List.mapM_cons] at h
    obtain ⟨first, own, h⟩ := exists_of_bind_eq_ok h
    obtain ⟨others, after, h⟩ := exists_of_bind_eq_ok h
    cases h
    rw [List.mem_cons, ih after]
    simp [own, eq_comm]

/-- The names that are read of a value are the texts of its items. -/
theorem mem_toNames {value : Value} {items : List Value} {names : NameSet}
    (held : items? value = some items) (read : toNames value = .ok names) {name : String} :
    name ∈ names ↔ ∃ item ∈ items, item.shown = .ok name := by
  unfold toNames at read
  rw [held] at read
  obtain ⟨texts, shown, read⟩ := exists_of_bind_eq_ok read
  cases read
  rw [NameSet.mem_ofList, mem_of_mapM shown]

theorem toNames_texts (texts : List String) :
    toNames (.set (texts.map .text)) = .ok (.ofList texts) := by
  have all : (texts.map Value.text).mapM Value.shown = .ok texts := by
    induction texts with
    | nil => rfl
    | cons text rest ih =>
      rw [List.map_cons, List.mapM_cons, ih]
      rfl
  unfold toNames
  simp only [items?, all]
  rfl

end Raw

/-! ## One gate -/

/-- The value that a cell, or none, represents for a gate of a kind. -/
inductive Stored : DataType → Option Cell → Value → Prop
  | closed : Stored .boolean none (.bool false)
  | everyone : Stored .boolean (some (.plain (.text "true"))) (.bool true)
  | nobody : Stored .set none (GateValues.setOfNames .empty)
  | names (texts : List String) :
    Stored .set (some (.plain (.set (texts.map .text)))) (GateValues.setOfNames (.ofList texts))
  | nothing : Stored .document none .null
  | record (entries : Entries) (h : entries ≠ []) :
    Stored .document (some (.document (.record entries))) (.record entries)
  | nought : Stored .number none (.number (.int 0))
  | number (text : String) (n : Number) (h : Raw.leadingNumber text = .ok n) :
    Stored .number (some (.plain (.text text))) (.number n)

/-- What is found under the key of a gate. -/
def Cell.found (gate : Gate) (cell? : Option Cell) : Value :=
  (cell?.map (·.read gate.key)).getD .null

namespace Stored

variable {gate : Gate} {cell? : Option Cell} {value : Value}

theorem toBool (h : Stored gate.dataType cell? value) (hg : gate.dataType = .boolean) :
    value = .bool (Raw.toBool (Cell.found gate cell?)) := by
  obtain rfl : gate = .boolean := by cases gate <;> first | rfl | cases hg
  cases h <;> rfl

theorem toNames (h : Stored gate.dataType cell? value) (hg : gate.dataType = .set) {names : NameSet}
    (hv : value = GateValues.setOfNames names) :
    Raw.toNames (Cell.found gate cell?) = .ok names := by
  have plain (members : List Value) :
      Cell.found gate (some (.plain (.set members))) = .set members := by
    show (Cell.plain (.set members)).read gate.key = _
    exact Cell.read_plain (by rw [hg]; decide) _
  rw [hg] at h
  cases h with
  | nobody => rw [← GateValues.setOfNames_injective hv]; rfl
  | names texts =>
    rw [plain, Raw.toNames_texts, GateValues.setOfNames_injective hv]

theorem toExpression (h : Stored .document cell? value) :
    value = .ofRecord? (Raw.toExpression (Cell.found .expression cell?)) := by
  cases h with
  | nothing => rfl
  | record entries nonempty =>
    cases entries with
    | nil => exact absurd rfl nonempty
    | cons entry rest => rfl

theorem toNumber (h : Stored gate.dataType cell? value) (hg : gate.dataType = .number) {n : Number}
    (hv : value = .number n) : Raw.toNumber (Cell.found gate cell?) = .ok n := by
  rw [hg] at h
  cases h with
  | nought => injection hv with hv; injection hv with hv; rw [← hv]; rfl
  | number text m read =>
    have plain : Cell.found gate (some (.plain (.text text))) = .text text :=
      Cell.read_plain (by rw [hg]; decide) _
    injection hv with hv
    injection hv with hv
    rw [plain, ← hv]
    exact read

end Stored

/-- All cells of a feature represent its values. -/
def GateValues.StoredIn (values : GateValues) (cell? : String → Option Cell) : Prop :=
  ∀ gate : Gate, Stored gate.dataType (cell? gate.key) (values.get gate)

theorem GateValues.get_expression (values : GateValues) :
    values.get .expression = .ofRecord? values.expression := by
  unfold get Value.ofRecord?
  cases values.expression <;> rfl

namespace GateValues.StoredIn

variable {values : GateValues} {records : Records} {feature : String}

/-- Values that are stored are read. -/
theorem typed (h : values.StoredIn (records.cell? feature)) :
    GateValues.ofEntries (records.readFeature feature) = .ok values := by
  have found (gate : Gate) : Entries.get (records.readFeature feature) gate.key =
      Cell.found gate (records.cell? feature gate.key) := Records.get_readFeature ..
  have boolean := (h .boolean).toBool rfl
  have actors : Raw.toNames (Cell.found .actor (records.cell? feature Gate.actor.key)) =
      .ok values.actors := (h .actor).toNames rfl rfl
  have groups : Raw.toNames (Cell.found .group (records.cell? feature Gate.group.key)) =
      .ok values.groups := (h .group).toNames rfl rfl
  have expression := (h .expression).toExpression
  have share := (h .percentageOfActors).toNumber rfl (n := values.percentageOfActors) rfl
  have time := (h .percentageOfTime).toNumber rfl (n := values.percentageOfTime) rfl
  have boolean : values.boolean =
      Raw.toBool (Cell.found .boolean (records.cell? feature Gate.boolean.key)) := by
    injection boolean with boolean
    injection boolean
  have expression : values.expression =
      Raw.toExpression (Cell.found .expression (records.cell? feature Gate.expression.key)) :=
    Value.ofRecord?_injective ((get_expression values).symm.trans expression)
  simp only [ofEntries, found, actors, groups, share, time, ← boolean, ← expression]
  rfl

theorem closed_none : GateValues.closed.StoredIn fun _ => none := by
  intro gate
  cases gate with
  | boolean => exact .closed
  | expression => exact .nothing
  | actor => exact .nobody
  | group => exact .nobody
  | percentageOfActors => exact .nought
  | percentageOfTime => exact .nought

/-- Rewriting the cell of one gate stores the values that differ in that gate. -/
theorem rewritten (h : values.StoredIn (records.cell? feature)) {gate : Gate} {cell? : Option Cell}
    {after : Records} {edited : GateValues}
    (rewritten : records.Rewritten feature gate.key cell? after)
    (own : Stored gate.dataType cell? (edited.get gate))
    (others : ∀ other ≠ gate, edited.get other = values.get other) :
    edited.StoredIn (after.cell? feature) := by
  intro other
  rw [rewritten.cells]
  by_cases same : other = gate
  · rw [same, if_pos ⟨rfl, rfl⟩]
    exact own
  · rw [if_neg fun eq => same (Gate.key_injective eq.2), others other same]
    exact h other

end GateValues.StoredIn

/-! ## All features -/

/-- The same features exist, and all their cells represent their values. -/
structure Records.Represents (records : Records) (catalog : Catalog) : Prop where
  contains (feature : String) : records.contains feature = catalog.contains feature
  stored (feature : String) : (catalog.values feature).StoredIn (records.cell? feature)

theorem Catalog.values_put (catalog : Catalog) (feature other : String) (values : GateValues) :
    Catalog.values (catalog.put feature values) other =
      if other = feature then values else catalog.values other := by
  rw [Catalog.values, Table.find?_put]
  split <;> rfl

namespace Records.Represents

variable {records after : Records} {catalog : Catalog} {feature : String} {values : GateValues}

theorem empty : Records.Represents .empty .empty where
  contains _ := rfl
  stored _ := .closed_none

/-- Values that are stored in the one feature that has changed take their place in the catalog. -/
theorem put (h : records.Represents catalog)
    (contains : ∀ other,
      after.contains other = (decide (other = feature) || records.contains other))
    (cells : ∀ other ≠ feature, after.cell? other = records.cell? other)
    (own : values.StoredIn (after.cell? feature)) :
    after.Represents (catalog.put feature values) where
  contains other := by rw [contains, Table.contains_put, h.contains]
  stored other := by
    rw [Catalog.values_put]
    split
    · rename_i same
      rw [same]
      exact own
    · rename_i different
      rw [cells other different]
      exact h.stored other

theorem rewritten (h : records.Represents catalog) {gate : Gate} {cell? : Option Cell}
    (rewritten : records.Rewritten feature gate.key cell? after)
    (own : Stored gate.dataType cell? (values.get gate))
    (others : ∀ other ≠ gate, values.get other = (catalog.values feature).get other) :
    after.Represents (catalog.put feature values) := by
  refine h.put rewritten.contains (fun other different => ?_)
    ((h.stored feature).rewritten rewritten own others)
  funext key
  rw [rewritten.cells, if_neg fun eq => different eq.1]

end Records.Represents

end FeatureGates
