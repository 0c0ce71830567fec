import FeatureGates.Proofs.Catalog
import FeatureGates.Proofs.Filing

/-!
# What changes of gates come to

The change of a gate adds the feature and rewrites one cell of it
(`Records.Rewritten`); each lemma says with what, for the gates of one kind.
Only closing a feature for everyone does more. Enabling and disabling a
percentage are the same.
-/

namespace FeatureGates

/-- Records in which a feature exists and one of its cells is as given; all else is as before. -/
structure Records.Rewritten (before : Records) (feature key : String) (cell? : Option Cell)
    (after : Records) : Prop where
  cells (other another : String) : after.cell? other another =
    if other = feature ∧ another = key then cell? else before.cell? other another
  contains (other : String) :
    after.contains other = (decide (other = feature) || before.contains other)

namespace Records

variable {feature key : String} {records : Records}

theorem contains_ensure_self (records : Records) (feature : String) :
    (records.ensure feature).contains feature = true := by
  rw [contains_ensure, decide_eq_true rfl, Bool.true_or]

theorem ensure_ensure (records : Records) (feature : String) :
    (records.ensure feature).ensure feature = records.ensure feature :=
  if_pos (records.contains_ensure_self feature)

namespace Rewritten

theorem putCell (records : Records) (feature key : String) (cell : Cell) :
    Rewritten records feature key (some cell)
      ((records.ensure feature).putCell feature key cell) where
  cells other another := by rw [cell?_putCell, cell?_ensure]
  contains other := by
    rw [contains_putCell, contains_ensure, ← Bool.or_assoc, Bool.or_self]

theorem putCell_again {before after : Records} {cell? : Option Cell}
    (h : Rewritten before feature key cell? after) (cell : Cell) :
    Rewritten before feature key (some cell) (after.putCell feature key cell) where
  cells other another := by
    rw [cell?_putCell]
    split
    · rfl
    · rename_i elsewhere
      rw [h.cells, if_neg elsewhere]
  contains other := by rw [contains_putCell, h.contains, ← Bool.or_assoc, Bool.or_self]

theorem eraseCell (records : Records) (feature key : String) :
    Rewritten records feature key none ((records.ensure feature).eraseCell feature key) where
  cells other another := by rw [cell?_eraseCell, cell?_ensure]
  contains other := by rw [contains_eraseCell, contains_ensure]

/-- Where there is no cell, none has to be erased. -/
theorem ensure (h : records.cell? feature key = none) :
    Rewritten records feature key none (records.ensure feature) where
  cells other another := by
    rw [cell?_ensure]
    split
    · rename_i own
      rw [own.1, own.2, h]
    · rfl
  contains other := contains_ensure ..

end Rewritten

end Records

namespace Filing

variable {thing : Value} {records : Records}

/-- A change is a write to the feature, which exists by then. -/
theorem change_apply (feature : String) (c : Change) (gate : Gate) (thing : Value)
    (records : Records) :
    change feature c gate thing records =
      write feature (c.toWrite gate thing) (records.ensure feature) := by
  simp only [change, bind_apply, add_apply]

theorem enable_boolean (feature : String) (thing : Value) (records : Records) :
    ∃ after, change feature .enable .boolean thing records = .ok true after ∧
      records.Rewritten feature Gate.boolean.key (some (.plain (.text "true"))) after := by
  refine ⟨_, ?_, .putCell records feature Gate.boolean.key (.plain (.text "true"))⟩
  rw [change_apply]
  simp only [Change.toWrite, write, enable, bind_apply, modify_apply, Records.ensure_ensure]
  rfl

/-- Closing for everyone takes away everything. -/
theorem disable_boolean (feature : String) (thing : Value) (records : Records) :
    change feature .disable .boolean thing records =
      .ok true ((records.ensure feature).clear feature) := by
  rw [change_apply]
  simp only [Change.toWrite, write, disable, bind_apply, modify_apply, Records.ensure_ensure]
  rfl

/-! ## Percentages -/

/-- A percentage is written as its text, by either change. -/
theorem change_percentage (feature : String) (c : Change) (share : Share) {text : String}
    (h : heldText thing = .ok text) (records : Records) :
    ∃ after, change feature c share.gate thing records = .ok true after ∧
      records.Rewritten feature share.gate.key (some (.plain (.text text))) after := by
  refine ⟨_, ?_, .putCell records feature share.gate.key (.plain (.text text))⟩
  have kind : (Slot.gate share.gate).dataType? = some .number := by cases share <;> rfl
  rw [change_apply]
  cases c with
  | enable =>
    simp only [Change.toWrite, write, enable, bind_apply, modify_apply, Records.ensure_ensure, kind,
      putText_apply, h]
    rfl
  | disable =>
    simp only [Change.toWrite, write, disable, bind_apply, modify_apply, Records.ensure_ensure,
      kind, putText_apply, h]
    rfl

/-! ## Sets -/

/-- A set gets another member; a new set is made where there was none. -/
theorem enable_crowd (feature : String) (crowd : Crowd) {text : String}
    (h : heldText thing = .ok text) {old : List Value}
    (hs : records.cell? feature crowd.gate.key = some (.plain (.set old)) ∨
      records.cell? feature crowd.gate.key = none ∧ old = []) :
    ∃ after, change feature .enable crowd.gate thing records = .ok true after ∧
      records.Rewritten feature crowd.gate.key
        (some (.plain (.set (Value.insertMember old (.text text))))) after := by
  have kind : (Slot.gate crowd.gate).dataType? = some .set := by cases crowd <;> rfl
  have key : (Slot.gate crowd.gate).key = crowd.gate.key := rfl
  rcases hs with there | ⟨none, rfl⟩
  · refine ⟨_, ?_, .putCell records feature crowd.gate.key _⟩
    rw [change_apply]
    simp only [Change.toWrite, write, enable, bind_apply, modify_apply, Records.ensure_ensure,
      kind, key, insertMember_apply, Records.cell?_ensure, there, members, h]
    rfl
  · refine ⟨_, ?_, (Records.Rewritten.putCell records feature crowd.gate.key
      (.plain (.set []))).putCell_again _⟩
    rw [change_apply]
    simp only [Change.toWrite, write, enable, bind_apply, modify_apply, Records.ensure_ensure,
      kind, key, insertMember_apply, Records.cell?_ensure, none, h]
    rfl

/-- A set loses a member. -/
theorem disable_crowd (feature : String) (crowd : Crowd) {text : String}
    (h : heldText thing = .ok text) {old : List Value}
    (hs : records.cell? feature crowd.gate.key = some (.plain (.set old))) :
    ∃ after, change feature .disable crowd.gate thing records = .ok true after ∧
      records.Rewritten feature crowd.gate.key
        (some (.plain (.set (old.filter fun m => !m.equals (.text text))))) after := by
  refine ⟨_, ?_, .putCell records feature crowd.gate.key _⟩
  have kind : (Slot.gate crowd.gate).dataType? = some .set := by cases crowd <;> rfl
  have key : (Slot.gate crowd.gate).key = crowd.gate.key := rfl
  rw [change_apply]
  simp only [Change.toWrite, write, disable, bind_apply, modify_apply, Records.ensure_ensure,
    kind, key, eraseMember_apply, Records.cell?_ensure, hs, members, h]
  rfl

theorem disable_crowd_of_none (feature : String) (crowd : Crowd) {text : String}
    (h : heldText thing = .ok text) (hs : records.cell? feature crowd.gate.key = none) :
    ∃ after, change feature .disable crowd.gate thing records = .ok true after ∧
      records.Rewritten feature crowd.gate.key none after := by
  refine ⟨_, ?_, .ensure hs⟩
  have kind : (Slot.gate crowd.gate).dataType? = some .set := by cases crowd <;> rfl
  have key : (Slot.gate crowd.gate).key = crowd.gate.key := rfl
  rw [change_apply]
  simp only [Change.toWrite, write, disable, bind_apply, modify_apply, Records.ensure_ensure,
    kind, key, eraseMember_apply, Records.cell?_ensure, hs, h]
  rfl

/-! ## Documents -/

theorem enable_expression (feature : String) {document : Value}
    (h : heldDocument thing = .ok document) (records : Records) :
    ∃ after, change feature .enable .expression thing records = .ok true after ∧
      records.Rewritten feature Gate.expression.key (some (.document document)) after := by
  refine ⟨_, ?_, .putCell records feature Gate.expression.key (.document document)⟩
  have kind : (Slot.gate .expression).dataType? = some .document := rfl
  rw [change_apply]
  simp only [Change.toWrite, write, enable, bind_apply, modify_apply, Records.ensure_ensure, kind,
    putDocument_apply, h]
  rfl

/-- Whatever is disabled, the document goes. -/
theorem disable_expression (feature : String) (thing : Value) (records : Records) :
    ∃ after, change feature .disable .expression thing records = .ok true after ∧
      records.Rewritten feature Gate.expression.key none after := by
  refine ⟨_, ?_, .eraseCell records feature Gate.expression.key⟩
  have kind : (Slot.gate .expression).dataType? = some .document := rfl
  rw [change_apply]
  simp only [Change.toWrite, write, disable, bind_apply, modify_apply, Records.ensure_ensure, kind]
  rfl

end Filing

end FeatureGates
