import FeatureGates.Proofs.Keeping
import FeatureGates.Proofs.Rules

/-!
# What filing changes, and what it leaves

A write to a feature changes nothing of other features
(`Filing.touched_of_made`), and a gate that is written belongs to a feature
that goes on to exist (`Filing.keeps_contains`). A write that fails has made its
feature exist, and may leave an empty set behind (`Filing.write_failed`).
That reads as nothing: the typed values of every feature are as before
(`Filing.typed_of_failed`).
-/

namespace FeatureGates

variable {α β : Type}

theorem Gate.key_injective {a b : Gate} (h : a.key = b.key) : a = b := by
  cases a <;> cases b <;> first | rfl | exact absurd h (by decide)

/-! ## Invariants of filings -/

namespace Filing

variable {I : Records → Prop}

theorem keeps_ofExcept (result : Except Failure α) : Keeps I (Filing.ofExcept result) := by
  cases result with
  | ok a => exact .pure a
  | error failure => exact .throw failure

/-- Filing under some keys of one feature keeps what putting and erasing its cells there keeps. -/
structure Closed (I : Records → Prop) (feature : String) (keys : String → Prop) : Prop where
  ensure (records : Records) : I records → I (records.ensure feature)
  clear (records : Records) : I records → I (records.clear feature)
  putCell (records : Records) {key : String} (cell : Cell) : keys key →
    I records → I (records.putCell feature key cell)
  eraseCell (records : Records) {key : String} : keys key →
    I records → I (records.eraseCell feature key)

variable {feature key : String} {keys : String → Prop}

theorem keeps_add (h : Closed I feature keys) : Keeps I (add feature) := by
  intro records hi
  rw [add_apply]
  exact h.ensure records hi

theorem keeps_clear (h : Closed I feature keys) : Keeps I (clear feature) :=
  (Keeps.modify h.clear).bind fun _ => .pure _

theorem keeps_putText (h : Closed I feature keys) (hk : keys key) (thing : Value) :
    Keeps I (putText feature key thing) :=
  (keeps_ofExcept _).bind fun _ => .modify fun records => h.putCell records _ hk

theorem keeps_openSet (h : Closed I feature keys) (hk : keys key) :
    Keeps I (openSet feature key) := by
  refine .get_bind ?_
  intro records
  split
  · exact keeps_ofExcept _
  · exact (Keeps.modify fun records => h.putCell records _ hk).bind fun _ => .pure _

theorem keeps_insertMember (h : Closed I feature keys) (hk : keys key) (thing : Value) :
    Keeps I (insertMember feature key thing) :=
  (keeps_openSet h hk).bind fun _ => (keeps_ofExcept _).bind fun _ =>
    .modify fun records => h.putCell records _ hk

theorem keeps_eraseMember (h : Closed I feature keys) (hk : keys key) (thing : Value) :
    Keeps I (eraseMember feature key thing) := by
  refine .get_bind ?_
  intro records
  split
  · exact (keeps_ofExcept _).bind fun _ => (keeps_ofExcept _).bind fun _ =>
      .modify fun records => h.putCell records _ hk
  · exact (keeps_ofExcept _).bind fun _ => .pure _

theorem keeps_putDocument (h : Closed I feature keys) (hk : keys key) (thing : Value) :
    Keeps I (putDocument feature key thing) :=
  (keeps_ofExcept _).bind fun _ => .modify fun records => h.putCell records _ hk

theorem keeps_enable (h : Closed I feature keys) {slot : Slot} (hk : keys slot.key)
    (thing : Value) : Keeps I (enable feature slot thing) := by
  refine (Keeps.modify h.ensure).bind fun _ => ?_
  dsimp only
  split
  · exact (Keeps.modify fun records => h.putCell records _ hk).bind fun _ => .pure _
  · exact (keeps_putText h hk thing).bind fun _ => .pure _
  · exact (keeps_insertMember h hk thing).bind fun _ => .pure _
  · exact (keeps_putDocument h hk thing).bind fun _ => .pure _
  · exact (Keeps.throw _).bind fun _ => .pure _

theorem keeps_disable (h : Closed I feature keys) {slot : Slot} (hk : keys slot.key)
    (thing : Value) : Keeps I (disable feature slot thing) := by
  refine (Keeps.modify h.ensure).bind fun _ => ?_
  split
  · exact .pure _
  · exact (keeps_putText h hk thing).bind fun _ => .pure _
  · exact (keeps_eraseMember h hk thing).bind fun _ => .pure _
  · exact (Keeps.modify fun records => h.eraseCell records hk).bind fun _ => .pure _
  · exact (Keeps.throw _).bind fun _ => .pure _

/-- Every write keeps what is kept by filing under its key, removal aside. -/
theorem keeps_write (h : Closed I feature keys) (w : Write)
    (hk : ∀ slot ∈ w.slot?, keys slot.key)
    (hr : w = .remove → ∀ records, I records → I (records.remove feature)) :
    Keeps I (write feature w) := by
  cases w with
  | add => exact keeps_add h
  | remove => exact (Keeps.modify (hr rfl)).bind fun _ => .pure _
  | clear => exact keeps_clear h
  | enable slot thing => exact keeps_enable h (hk slot rfl) thing
  | disable slot thing =>
    refine (keeps_disable h (hk slot rfl) thing).bind ?_
    intro again
    cases again with
    | true => exact keeps_clear h
    | false => exact .pure _

end Filing

/-! ## Other features -/

namespace Records

variable (records : Records) {feature other : String}

theorem find?_ensure (ho : other ≠ feature) :
    (records.ensure feature).find? other = records.find? other := by
  unfold ensure
  split
  · rfl
  · rw [Table.find?_put, if_neg ho]

theorem find?_clear (ho : other ≠ feature) :
    (records.clear feature).find? other = records.find? other := by
  unfold clear
  split
  · rw [Table.find?_put, if_neg ho]
  · rfl

theorem find?_putCell (ho : other ≠ feature) (key : String) (cell : Cell) :
    (records.putCell feature key cell).find? other = records.find? other := by
  rw [putCell, Table.find?_put, if_neg ho]

theorem find?_eraseCell (ho : other ≠ feature) (key : String) :
    (records.eraseCell feature key).find? other = records.find? other := by
  unfold eraseCell
  split
  · rw [Table.find?_put, if_neg ho]
  · rfl

theorem find?_remove (ho : other ≠ feature) :
    (records.remove feature).find? other = records.find? other := by
  rw [remove, Table.find?_erase, if_neg ho]

end Records

/-- Records of which at most one feature has changed. -/
structure Records.Touched (feature : String) (before after : Records) : Prop where
  cells (other key : String) : other ≠ feature → after.cell? other key = before.cell? other key
  contains (other : String) : other ≠ feature → after.contains other = before.contains other
  distinct : before.Distinct → after.Distinct

namespace Records.Touched

variable {before after : Records} {feature : String}

/-- What is filed under a feature is all that there is to it. -/
theorem of_find? (h : ∀ other, other ≠ feature → after.find? other = before.find? other)
    (hd : before.Distinct → after.Distinct) : Touched feature before after where
  cells other key ho := by rw [cell?, cell?, h other ho]
  contains other ho := by rw [Table.contains, Table.contains, h other ho]
  distinct := hd

/-- The typed values of other features are as before. -/
theorem typed (h : Touched feature before after) {other : String} (ho : other ≠ feature) :
    GateValues.ofEntries (after.readFeature other) =
      GateValues.ofEntries (before.readFeature other) :=
  typed_congr fun key => h.cells other key ho

/-- If the feature is there just if it was, the names are those there were. -/
theorem names (h : Touched feature before after)
    (same : after.contains feature = before.contains feature) : after.names = before.names := by
  refine Table.names_congr fun other => ?_
  by_cases own : other = feature
  · rw [own, same]
  · exact h.contains other own

end Records.Touched

namespace Filing

variable {feature other : String} {records after : Records} {made : Bool} {failure : Failure}

/-- A write to a feature leaves what is filed under another. -/
theorem keeps_find? (ho : other ≠ feature) (filed : Option Cells) (w : Write) :
    Keeps (fun records => records.find? other = filed) (write feature w) := by
  have closed : Closed (fun records => records.find? other = filed) feature fun _ => True := {
    ensure := fun records h => (records.find?_ensure ho).trans h
    clear := fun records h => (records.find?_clear ho).trans h
    putCell := fun records key cell _ h => (records.find?_putCell ho key cell).trans h
    eraseCell := fun records key _ h => (records.find?_eraseCell ho key).trans h }
  exact keeps_write closed w (fun _ _ => trivial) fun _ records h =>
    (records.find?_remove ho).trans h

theorem keeps_distinct (feature : String) (w : Write) : Keeps Table.Distinct (write feature w) := by
  have closed : Closed Table.Distinct feature fun _ => True := {
    ensure := fun records h => records.distinct_ensure feature h
    clear := fun records h => records.distinct_clear feature h
    putCell := fun records key cell _ h => records.distinct_putCell feature key h cell
    eraseCell := fun records key _ h => records.distinct_eraseCell feature key h }
  exact keeps_write closed w (fun _ _ => trivial) fun _ _ h => Table.distinct_erase h feature

theorem find?_of_made {w : Write} (h : write feature w records = .ok made after)
    (ho : other ≠ feature) : after.find? other = records.find? other := by
  have kept := keeps_find? ho (records.find? other) w records rfl
  rwa [h] at kept

theorem find?_of_failed {w : Write} (h : write feature w records = .error failure after)
    (ho : other ≠ feature) : after.find? other = records.find? other := by
  have kept := keeps_find? ho (records.find? other) w records rfl
  rwa [h] at kept

/-- A write to a feature changes nothing of other features. -/
theorem touched_of_made {w : Write} (h : write feature w records = .ok made after) :
    Records.Touched feature records after := by
  refine .of_find? (fun other ho => find?_of_made h ho) fun distinct => ?_
  have kept := keeps_distinct feature w records distinct
  rwa [h] at kept

theorem touched_of_failed {w : Write} (h : write feature w records = .error failure after) :
    Records.Touched feature records after := by
  refine .of_find? (fun other ho => find?_of_failed h ho) fun distinct => ?_
  have kept := keeps_distinct feature w records distinct
  rwa [h] at kept

/-- A feature goes on to exist unless it is removed. -/
theorem keeps_contains (feature : String) {w : Write} (hw : w ≠ .remove) :
    Keeps (fun records => records.contains feature = true) (write feature w) := by
  have closed : Closed (fun records => records.contains feature = true) feature fun _ => True := {
    ensure := fun records _ => by
      rw [Records.contains_ensure, decide_eq_true rfl, Bool.true_or]
    clear := fun records h => (Records.contains_clear ..).trans h
    putCell := fun records key cell _ _ => by
      rw [Records.contains_putCell, decide_eq_true rfl, Bool.true_or]
    eraseCell := fun records key _ h => (Records.contains_eraseCell ..).trans h }
  exact keeps_write closed w (fun _ _ => trivial) fun removal => absurd removal hw

end Filing

/-- Whatever a write files keeps a property of records. -/
def Write.Files (J : Records → Prop) (feature : String) : Write → Prop
  | .disable slot thing =>
    Keeps J (Filing.disable feature slot thing) ∧ Keeps J (Filing.clear feature)
  | write => Keeps J (Filing.write feature write)

/-- Any filing keeps what is so of all records. -/
theorem Write.Files.of_all {J : Records → Prop} (h : ∀ records, J records) {feature : String}
    {write : Write} : write.Files J feature := by
  have keeps {α : Type} (filing : Filing α) : Keeps J filing := by
    intro records _
    cases filing records <;> exact h _
  cases write with
  | disable slot thing => exact ⟨keeps _, keeps _⟩
  | add => exact keeps (Filing.write feature .add)
  | remove => exact keeps (Filing.write feature .remove)
  | clear => exact keeps (Filing.write feature .clear)
  | enable slot thing => exact keeps (Filing.write feature (.enable slot thing))

namespace Filing

/-! ## Failures -/

theorem ofExcept_apply (result : Except Failure α) (records : Records) :
    Filing.ofExcept result records = match result with
      | .ok a => .ok a records
      | .error failure => .error failure records := by
  cases result <;> rfl

/-- The text of a thing is got before anything is written. -/
theorem putText_apply (feature key : String) (thing : Value) (records : Records) :
    putText feature key thing records = match heldText thing with
      | .ok text => .ok () (records.putCell feature key (.plain (.text text)))
      | .error failure => .error failure records := by
  simp only [putText, bind_apply, ofExcept_apply]
  cases heldText thing <;> rfl

theorem putDocument_apply (feature key : String) (thing : Value) (records : Records) :
    putDocument feature key thing records = match heldDocument thing with
      | .ok document => .ok () (records.putCell feature key (.document document))
      | .error failure => .error failure records := by
  simp only [putDocument, bind_apply, ofExcept_apply]
  cases heldDocument thing <;> rfl

/-- Only sets have members. -/
theorem eq_of_members {cell : Cell} {wanted : String} {old : List Value}
    (h : members cell wanted = .ok old) : cell = .plain (.set old) := by
  unfold members at h
  split at h
  · cases h
    rfl
  · cases h
  · cases h

theorem insertMember_apply (feature key : String) (thing : Value) (records : Records) :
    insertMember feature key thing records =
      match records.cell? feature key with
      | some cell =>
        match members cell "add" with
        | .error failure => .error failure records
        | .ok old =>
          match heldText thing with
          | .error failure => .error failure records
          | .ok text => .ok () (records.putCell feature key
              (.plain (.set (Value.insertMember old (.text text)))))
      | none =>
        let opened := records.putCell feature key (.plain (.set []))
        match heldText thing with
        | .error failure => .error failure opened
        | .ok text => .ok () (opened.putCell feature key
            (.plain (.set (Value.insertMember [] (.text text))))) := by
  simp only [insertMember, openSet, bind_apply, get_apply]
  cases records.cell? feature key with
  | none =>
    simp only [bind_apply, modify_apply, pure_apply, ofExcept_apply]
    cases heldText thing <;> rfl
  | some cell =>
    simp only [ofExcept_apply]
    cases members cell "add" with
    | error failure => rfl
    | ok old => cases heldText thing <;> rfl

theorem eraseMember_apply (feature key : String) (thing : Value) (records : Records) :
    eraseMember feature key thing records =
      match records.cell? feature key with
      | some cell =>
        match members cell "discard" with
        | .error failure => .error failure records
        | .ok old =>
          match heldText thing with
          | .error failure => .error failure records
          | .ok text => .ok () (records.putCell feature key
              (.plain (.set (old.filter fun m => !m.equals (.text text)))))
      | none =>
        match heldText thing with
        | .error failure => .error failure records
        | .ok _ => .ok () records := by
  simp only [eraseMember, bind_apply, get_apply]
  cases records.cell? feature key with
  | none =>
    simp only [bind_apply, ofExcept_apply]
    cases heldText thing <;> rfl
  | some cell =>
    simp only [bind_apply, ofExcept_apply]
    cases members cell "discard" with
    | error failure => rfl
    | ok old => cases heldText thing <;> rfl

theorem putText_failed {feature key : String} {thing : Value} {records after : Records}
    {failure : Failure} (h : putText feature key thing records = .error failure after) :
    after = records := by
  rw [putText_apply] at h
  cases held : heldText thing with
  | ok text =>
    rw [held] at h
    cases h
  | error failure =>
    rw [held] at h
    cases h
    rfl

theorem putDocument_failed {feature key : String} {thing : Value} {records after : Records}
    {failure : Failure} (h : putDocument feature key thing records = .error failure after) :
    after = records := by
  rw [putDocument_apply] at h
  cases held : heldDocument thing with
  | ok document =>
    rw [held] at h
    cases h
  | error failure =>
    rw [held] at h
    cases h
    rfl

/-- An insertion that fails has changed nothing, or made an empty set for a member without a
text. -/
theorem insertMember_failed {feature key : String} {thing : Value} {records after : Records}
    {failure : Failure} (h : insertMember feature key thing records = .error failure after) :
    after = records ∨ records.cell? feature key = none ∧ heldText thing = .error failure ∧
      after = records.putCell feature key (.plain (.set [])) := by
  rw [insertMember_apply] at h
  split at h
  · split at h
    · cases h
      exact .inl rfl
    · split at h
      · cases h
        exact .inl rfl
      · cases h
  · rename_i none
    dsimp only at h
    split at h
    · rename_i textless
      cases h
      exact .inr ⟨none, textless, rfl⟩
    · cases h

theorem eraseMember_failed {feature key : String} {thing : Value} {records after : Records}
    {failure : Failure} (h : eraseMember feature key thing records = .error failure after) :
    after = records := by
  rw [eraseMember_apply] at h
  split at h
  · split at h
    · cases h
      rfl
    · split at h
      · cases h
        rfl
      · cases h
  · split at h
    · cases h
      rfl
    · cases h

/-- An empty set reads as nothing at all. -/
theorem typed_putCell_emptySet {records : Records} {feature : String} {gate : Gate}
    (hg : gate.dataType = .set) (hn : records.cell? feature gate.key = none) (other : String) :
    GateValues.ofEntries
        ((records.putCell feature gate.key (.plain (.set []))).readFeature other) =
      GateValues.ofEntries (records.readFeature other) := by
  have elsewhere (g : Gate) (h : ¬(other = feature ∧ g.key = gate.key)) :
      Entries.get ((records.putCell feature gate.key (.plain (.set []))).readFeature other) g.key =
        Entries.get (records.readFeature other) g.key := by
    rw [Records.get_readFeature, Records.cell?_putCell, if_neg h, Records.get_readFeature]
  refine GateValues.ofEntries_congr (fun g different => ?_) fun g _ => ?_
  · refine elsewhere g fun own => different ?_
    rw [Gate.key_injective own.2, hg]
  · by_cases own : other = feature ∧ g.key = gate.key
    · obtain ⟨rfl, key⟩ := own
      obtain rfl := Gate.key_injective key
      have plain : g.dataType ≠ .document := by
        rw [hg]
        decide
      rw [Records.get_readFeature, Records.cell?_putCell, if_pos ⟨rfl, rfl⟩,
        Records.get_readFeature, hn, Option.map_some, Cell.read_plain plain]
      rfl
    · rw [elsewhere g own]

end Filing

/-- A write as flags make them: gates are those of a feature that exists. -/
def Write.Suits (feature : String) (records : Records) : Write → Prop
  | .enable _ _ => records.contains feature = true
  | .disable _ _ => records.contains feature = true
  | _ => True

namespace Filing

/-- Enabling that fails has made its feature exist, and at most opened a set for a member without
a text. -/
theorem enable_failed {feature : String} {slot : Slot} {thing : Value} {records after : Records}
    {failure : Failure} (h : enable feature slot thing records = .error failure after) :
    after = records.ensure feature ∨
      ∃ gate, slot = .gate gate ∧ gate.dataType = .set ∧ records.cell? feature gate.key = none ∧
        heldText thing = .error failure ∧
          after = (records.ensure feature).putCell feature gate.key (.plain (.set [])) := by
  simp only [enable, bind_apply, modify_apply] at h
  cases slot with
  | foreign name =>
    cases h
    exact .inl rfl
  | gate gate =>
    cases kind : gate.dataType with
    | boolean =>
      simp only [Slot.dataType?, kind] at h
      cases h
    | number =>
      simp only [Slot.dataType?, kind] at h
      exact .inl (putText_failed (failed_of_bind_pure h))
    | document =>
      simp only [Slot.dataType?, kind] at h
      exact .inl (putDocument_failed (failed_of_bind_pure h))
    | set =>
      simp only [Slot.dataType?, kind] at h
      rcases insertMember_failed (failed_of_bind_pure h) with same | ⟨unset, textless, opened⟩
      · exact .inl same
      · exact .inr ⟨gate, rfl, kind, (records.cell?_ensure ..).symm.trans unset, textless, opened⟩

theorem disable_failed {feature : String} {slot : Slot} {thing : Value} {records after : Records}
    {failure : Failure} (h : disable feature slot thing records = .error failure after) :
    after = records.ensure feature := by
  simp only [disable, bind_apply, modify_apply] at h
  cases slot with
  | foreign name =>
    cases h
    rfl
  | gate gate =>
    cases kind : gate.dataType with
    | boolean =>
      simp only [Slot.dataType?, kind] at h
      cases h
    | document =>
      simp only [Slot.dataType?, kind] at h
      cases h
    | number =>
      simp only [Slot.dataType?, kind] at h
      exact putText_failed (failed_of_bind_pure h)
    | set =>
      simp only [Slot.dataType?, kind] at h
      exact eraseMember_failed (failed_of_bind_pure h)

/-- What a write that fails leaves: its feature exists, and if it was to put the first member into
a set, that may be there without the member. -/
theorem write_failed {feature : String} {w : Write} {records after : Records} {failure : Failure}
    (h : write feature w records = .error failure after) :
    after = records.ensure feature ∨
      ∃ gate thing, w = .enable (.gate gate) thing ∧ gate.dataType = .set ∧
        records.cell? feature gate.key = none ∧ heldText thing = .error failure ∧
          after = (records.ensure feature).putCell feature gate.key (.plain (.set [])) := by
  cases w with
  | add =>
    rw [write_add] at h
    cases h
  | remove => cases h
  | clear => cases h
  | enable slot thing =>
    rcases enable_failed h with same | ⟨gate, rfl, opened⟩
    · exact .inl same
    · exact .inr ⟨gate, thing, rfl, opened⟩
  | disable slot thing =>
    simp only [write, bind_apply] at h
    cases ran : disable feature slot thing records with
    | ok again left =>
      rw [ran] at h
      cases again <;> cases h
    | error failure left =>
      rw [ran] at h
      cases h
      exact .inl (disable_failed ran)

end Filing

/-- A member that a demand puts into a set has a text. -/
def Demand.NamesMember : Demand → Prop
  | .change .enable gate thing =>
    gate.dataType = .set → ∃ text, Filing.heldText thing = .ok text
  | _ => True

namespace Filing

/-- The second write of a change fails without a trace in the cells, if the change names its
member. -/
theorem gate_failed {feature : String} {c : Change} {gate : Gate} {thing : Value}
    {records after : Records} {failure : Failure}
    (named : (Demand.change c gate thing).NamesMember)
    (h : write feature (c.toWrite gate thing) records = .error failure after) :
    after = records.ensure feature := by
  rcases write_failed h with same | ⟨gate, thing, enables, kind, -, textless, -⟩
  · exact same
  · cases c with
    | disable => cases enables
    | enable =>
      cases enables
      obtain ⟨text, held⟩ := named kind
      cases textless.symm.trans held

/-- A write that fails leaves the typed values of every feature as they are. -/
theorem typed_of_failed {feature : String} {w : Write} {records after : Records}
    {failure : Failure} (h : write feature w records = .error failure after) (other : String) :
    GateValues.ofEntries (after.readFeature other) =
      GateValues.ofEntries (records.readFeature other) := by
  have ensured : GateValues.ofEntries ((records.ensure feature).readFeature other) =
      GateValues.ofEntries (records.readFeature other) :=
    Records.typed_congr fun key => records.cell?_ensure ..
  rcases write_failed h with rfl | ⟨gate, thing, -, kind, none, -, rfl⟩
  · exact ensured
  · rw [typed_putCell_emptySet kind ((records.cell?_ensure ..).trans none), ensured]

/-- A write that fails neither makes a feature exist nor stop to. -/
theorem contains_of_failed {feature : String} {w : Write} {records after : Records}
    {failure : Failure} (hw : w.Suits feature records)
    (h : write feature w records = .error failure after) (other : String) :
    after.contains other = records.contains other := by
  by_cases own : other = feature
  · have exists_before : w ≠ .remove → records.contains feature = true := by
      intro _
      cases w with
      | enable slot thing => exact hw
      | disable slot thing => exact hw
      | add =>
        rw [write_add] at h
        cases h
      | remove => cases h
      | clear => cases h
    have no_removal : w ≠ .remove := by
      rintro rfl
      cases h
    have before := exists_before no_removal
    have kept := keeps_contains feature no_removal records before
    rw [h] at kept
    rw [own, before]
    exact kept
  · exact (touched_of_failed h).contains other own

/-! ## Successes -/

/-- A write that is made may bring its feature into being or remove it only
by being there for that. -/
theorem contains_of_made {feature : String} {w : Write} {records after : Records} {made : Bool}
    (hw : w.Suits feature records) (ha : w ≠ .add) (hr : w ≠ .remove)
    (h : write feature w records = .ok made after) :
    after.contains feature = records.contains feature := by
  have goes_on (before : records.contains feature = true) : after.contains feature = true := by
    have kept := keeps_contains feature hr records before
    rwa [h] at kept
  cases w with
  | add => exact absurd rfl ha
  | remove => exact absurd rfl hr
  | clear =>
    cases h
    exact Records.contains_clear ..
  | enable slot thing => exact (goes_on hw).trans hw.symm
  | disable slot thing => exact (goes_on hw).trans hw.symm

end Filing

end FeatureGates
