import FeatureGates.Proofs.Filing
import FeatureGates.Proofs.Percentages
import FeatureGates.Proofs.StoredTrees

/-!
# Records that can be read

The values of a feature can be typed if its sets hold nothing but what has a
text, and its percentages are numbers, none of time too large for a
floating-point number. A record of truth values or documents cannot be
wrong: what makes no sense there counts as nothing.

Records that can be read stay so, whatever is written that flags write
(`Filing.keeps_readable_enable`): a member is written as a text, and a percentage
as one from which a number is read (`Percentage.fits_of_read`).
-/

namespace FeatureGates

/-! Powers of natural numbers are the ones of core. -/

attribute [local instance (2000)] instPowNat

/-! ## Percentages -/

namespace Percentage

theorem fits_int {n : Int} (low : -10 < n) (high : n < 10) : (Number.int n).fits = true := by
  have all : ∀ k : Fin 19, (Number.int ((k : Nat) - 9 : Int)).fits = true := by decide +kernel
  have same : (((n + 9).toNat : Nat) : Int) - 9 = n := by omega
  have fits := all ⟨(n + 9).toNat, by omega⟩
  rwa [same] at fits

/-- What is read from the text of a percentage is not too large. -/
theorem fits_of_read (p : Percentage) {text : String} {q : Number}
    (written : p.value.written = .ok text) (read : Raw.leadingNumber text = .ok q) :
    q.fits = true := by
  obtain ⟨n, inRange⟩ := p
  cases n with
  | int n =>
    have same : q = .int n :=
      Except.ok.inj (read.symm.trans (Raw.leadingNumber_of_writeInt written))
    have near := Number.checkNaN_of_isPercentage inRange
    rw [same]
    unfold Number.checkNaN at near
    unfold Number.fits
    cases rounded : (Number.int n).toBinary64 with
    | ok x => rfl
    | error failure =>
      rw [rounded] at near
      cases near
  | float x =>
    obtain ⟨s, m, rfl⟩ := Number.finite_of_isPercentage inRange
    cases written
    by_cases point : '.' ∈ (Binary64.finite s m).written.toList
    · cases read.symm.trans (Raw.leadingNumber_of_point point)
      rfl
    · have few := Magnitude.significand_lt_of_text
        fun mem => point ((Binary64.point_mem_written s m).2 mem)
      cases read.symm.trans (Raw.leadingNumber_of_no_point point)
      cases s with
      | true =>
        rw [if_pos rfl]
        exact fits_int (by omega) (by omega)
      | false =>
        rw [if_neg Bool.false_ne_true]
        exact fits_int (by omega) (by omega)

end Percentage

/-! ## Cells -/

/-- What is read for the gate is of the kind it takes, as far as others are a failure. -/
def Gate.Reads (gate : Gate) (raw : Value) : Prop :=
  match gate.dataType with
  | .set => ∃ names, Raw.toNames raw = .ok names
  | .number => ∃ n, Raw.toNumber raw = .ok n ∧ (gate = .percentageOfTime → n.fits = true)
  | _ => True

theorem Gate.reads_null (gate : Gate) : gate.Reads .null := by
  cases gate with
  | boolean => trivial
  | expression => trivial
  | actor => exact ⟨_, rfl⟩
  | group => exact ⟨_, rfl⟩
  | percentageOfActors => exact ⟨.int 0, rfl, nofun⟩
  | percentageOfTime => exact ⟨.int 0, rfl, fun _ => by decide +kernel⟩

theorem Gate.reads_set {gate : Gate} (kind : gate.dataType = .set) {raw : Value} :
    gate.Reads raw ↔ ∃ names, Raw.toNames raw = .ok names := by
  unfold Reads
  rw [kind]

/-- The names in a set can be read if every member has a text. -/
theorem Raw.exists_toNames_set {items : List Value} :
    (∃ names, toNames (.set items) = .ok names) ↔
      ∀ item ∈ items, ∃ text, item.shown = .ok text := by
  have texts : (∃ texts, items.mapM Value.shown = .ok texts) ↔
      ∀ item ∈ items, ∃ text, item.shown = .ok text := by
    induction items with
    | nil =>
      refine iff_of_true ⟨[], rfl⟩ ?_
      intro item mem
      cases mem
    | cons item rest ih =>
      rw [List.forall_mem_cons, ← ih, List.mapM_cons]
      constructor
      · rintro ⟨texts, all⟩
        obtain ⟨text, shown, all⟩ := exists_of_bind_eq_ok all
        obtain ⟨others, shown', -⟩ := exists_of_bind_eq_ok all
        exact ⟨⟨text, shown⟩, others, shown'⟩
      · rintro ⟨⟨text, shown⟩, others, shown'⟩
        rw [shown, shown']
        exact ⟨text :: others, rfl⟩
  rw [← texts]
  constructor
  · rintro ⟨names, read⟩
    obtain ⟨texts, shown, -⟩ := exists_of_bind_eq_ok read
    exact ⟨texts, shown⟩
  · rintro ⟨texts, shown⟩
    refine ⟨.ofList texts, ?_⟩
    show (do return NameSet.ofList (← items.mapM Value.shown) : Except Failure NameSet) = _
    rw [shown]
    rfl

theorem Value.mem_insertMember {old : List Value} {value item : Value}
    (h : item ∈ insertMember old value) : item ∈ old ∨ item = value := by
  unfold insertMember at h
  split at h
  · exact .inl h
  · exact (List.mem_append.1 h).imp_right List.mem_singleton.1

/-- All cells of all gates can be read. -/
def Records.Readable (records : Records) : Prop :=
  ∀ (feature : String) (gate : Gate),
    gate.Reads (Entries.get (records.readFeature feature) gate.key)

namespace Records

variable {records : Records} {feature : String}

theorem readable_empty : Readable .empty := fun _ gate => gate.reads_null

/-- What can be read can be typed. -/
theorem Readable.typed (h : records.Readable) (feature : String) :
    ∃ values, GateValues.ofEntries (records.readFeature feature) = .ok values ∧
      values.percentageOfTime.fits = true := by
  obtain ⟨actors, hactors⟩ := h feature .actor
  obtain ⟨groups, hgroups⟩ := h feature .group
  obtain ⟨share, hshare, -⟩ := h feature .percentageOfActors
  obtain ⟨time, htime, fits⟩ := h feature .percentageOfTime
  simp only [GateValues.ofEntries, hactors, hgroups, hshare, htime]
  exact ⟨_, rfl, fits rfl⟩

/-- Cells that are as before, or not there, can be read if all could. -/
theorem Readable.mono (h : records.Readable) {after : Records}
    (cells : ∀ other key, after.cell? other key = none ∨
      after.cell? other key = records.cell? other key) : after.Readable := by
  intro other gate
  have before := h other gate
  rw [get_readFeature] at before ⊢
  rcases cells other gate.key with none | same
  · rw [none]
    exact gate.reads_null
  · rwa [same]

theorem Readable.putCell (h : records.Readable) {gate : Gate} {cell : Cell}
    (reads : gate.Reads (cell.read gate.key)) :
    (records.putCell feature gate.key cell).Readable := by
  intro other another
  have before := h other another
  rw [get_readFeature] at before ⊢
  rw [cell?_putCell]
  split
  · rename_i own
    obtain rfl := Gate.key_injective own.2
    exact reads
  · exact before

end Records

/-! ## Writes -/

namespace Filing

open Records

variable {feature : String} {gate : Gate} {thing : Value}

theorem keeps_readable_ensure (feature : String) :
    Keeps Readable (modify (·.ensure feature) : Filing Unit) :=
  .modify fun _ h => h.mono fun _ _ => .inr (cell?_ensure ..)

theorem keeps_readable_add (feature : String) : Keeps Readable (Filing.add feature) := by
  intro records h
  rw [add_apply]
  exact h.mono fun _ _ => .inr (cell?_ensure ..)

theorem keeps_readable_remove (feature : String) : Keeps Readable (Filing.remove feature) := by
  refine (Keeps.modify fun records h => h.mono fun other key => ?_).bind fun _ => .pure _
  rw [cell?_remove]
  split
  · exact .inl rfl
  · exact .inr rfl

theorem keeps_readable_clear (feature : String) : Keeps Readable (Filing.clear feature) := by
  refine (Keeps.modify fun records h => h.mono fun other key => ?_).bind fun _ => .pure _
  rw [cell?_clear]
  split
  · exact .inl rfl
  · exact .inr rfl

theorem keeps_readable_putText (kind : gate.dataType = .number)
    (text : ∀ text, heldText thing = .ok text → gate.Reads (.text text)) :
    Keeps Readable (putText feature gate.key thing) := by
  intro records h
  rw [putText_apply]
  cases held : heldText thing with
  | error failure => exact h
  | ok written =>
    refine h.putCell ?_
    rw [Cell.read_plain (by rw [kind]; decide)]
    exact text written held

theorem keeps_readable_putDocument (kind : gate.dataType = .document) (feature : String)
    (thing : Value) : Keeps Readable (putDocument feature gate.key thing) := by
  intro records h
  rw [putDocument_apply]
  cases heldDocument thing with
  | error failure => exact h
  | ok document =>
    refine h.putCell ?_
    unfold Gate.Reads
    rw [kind]
    trivial

/-- A set that is put where all members have texts. -/
theorem readable_putSet {records : Records} (h : records.Readable) (kind : gate.dataType = .set)
    {items : List Value} (shown : ∀ item ∈ items, ∃ text, item.shown = .ok text) :
    (records.putCell feature gate.key (.plain (.set items))).Readable := by
  refine h.putCell ?_
  rw [Cell.read_plain (by rw [kind]; decide), Gate.reads_set kind]
  exact Raw.exists_toNames_set.2 shown

/-- The members of a set that can be read have texts. -/
theorem shown_of_readable {records : Records} (h : records.Readable) (kind : gate.dataType = .set)
    {cell : Cell} (there : records.cell? feature gate.key = some cell) {wanted : String}
    {old : List Value} (known : members cell wanted = .ok old) :
    ∀ item ∈ old, ∃ text, item.shown = .ok text := by
  have reads := h feature gate
  rw [Gate.reads_set kind, get_readFeature, there, eq_of_members known, Option.map_some,
    Option.getD_some, Cell.read_plain (by rw [kind]; decide)] at reads
  exact Raw.exists_toNames_set.1 reads

theorem keeps_readable_insertMember (kind : gate.dataType = .set) (feature : String)
    (thing : Value) : Keeps Readable (insertMember feature gate.key thing) := by
  intro records h
  rw [insertMember_apply]
  cases there : records.cell? feature gate.key with
  | some cell =>
    dsimp only
    cases known : members cell "add" with
    | error failure => exact h
    | ok old =>
      cases heldText thing with
      | error failure => exact h
      | ok text =>
        refine readable_putSet h kind fun item mem => ?_
        rcases Value.mem_insertMember mem with old | rfl
        · exact shown_of_readable h kind there known item old
        · exact ⟨text, rfl⟩
  | none =>
    have opened : (records.putCell feature gate.key (.plain (.set []))).Readable :=
      readable_putSet h kind fun _ mem => by cases mem
    dsimp only
    cases heldText thing with
    | error failure => exact opened
    | ok text =>
      refine readable_putSet opened kind fun item mem => ?_
      rcases Value.mem_insertMember mem with old | rfl
      · cases old
      · exact ⟨text, rfl⟩

theorem keeps_readable_eraseMember (kind : gate.dataType = .set) (feature : String)
    (thing : Value) : Keeps Readable (eraseMember feature gate.key thing) := by
  intro records h
  rw [eraseMember_apply]
  cases there : records.cell? feature gate.key with
  | some cell =>
    dsimp only
    cases known : members cell "discard" with
    | error failure => exact h
    | ok old =>
      cases heldText thing with
      | error failure => exact h
      | ok text =>
        exact readable_putSet h kind fun item mem =>
          shown_of_readable h kind there known item (List.mem_filter.1 mem).1
  | none =>
    dsimp only
    cases heldText thing with
    | error failure => exact h
    | ok text => exact h

/-- What is put in writing for a percentage can be read. -/
theorem reads_of_routed {c : Change} (routed : (Demand.change c gate thing).IsRouted)
    (kind : gate.dataType = .number) {text : String} (held : heldText thing = .ok text) :
    gate.Reads (.text text) := by
  have percentage (p : Percentage) (written : p.value.written = .ok text) :
      ∃ n, Raw.toNumber (.text text) = .ok n ∧ n.fits = true := by
    obtain ⟨_, n, written', read, -⟩ := p.exists_read
    cases written'.symm.trans written
    exact ⟨n, read, p.fits_of_read written read⟩
  rcases routed with ⟨wrapped, rfl, rfl⟩ | ⟨-, rfl, -⟩
  · cases wrapped with
    | percentageOfActors p =>
      obtain ⟨n, read, -⟩ := percentage p held
      exact ⟨n, read, nofun⟩
    | percentageOfTime p =>
      obtain ⟨n, read, fits⟩ := percentage p held
      exact ⟨n, read, fun _ => fits⟩
    | _ => cases kind
  · cases kind

theorem keeps_readable_enable (routed : (Demand.change .enable gate thing).IsRouted)
    (feature : String) : Keeps Readable (enable feature (.gate gate) thing) := by
  refine (keeps_readable_ensure feature).bind fun _ => ?_
  cases kind : gate.dataType with
  | boolean =>
    simp only [Slot.dataType?, kind]
    refine Keeps.bind (.modify fun records h => h.putCell ?_) fun _ => .pure _
    unfold Gate.Reads
    rw [kind]
    trivial
  | number =>
    simp only [Slot.dataType?, kind]
    exact (keeps_readable_putText kind fun text => reads_of_routed routed kind).bind
      fun _ => .pure _
  | set =>
    simp only [Slot.dataType?, kind]
    exact (keeps_readable_insertMember kind feature thing).bind fun _ => .pure _
  | document =>
    simp only [Slot.dataType?, kind]
    exact (keeps_readable_putDocument kind feature thing).bind fun _ => .pure _

theorem keeps_readable_disable (routed : (Demand.change .disable gate thing).IsRouted)
    (feature : String) : Keeps Readable (disable feature (.gate gate) thing) := by
  refine (keeps_readable_ensure feature).bind fun _ => ?_
  cases kind : gate.dataType with
  | boolean =>
    simp only [Slot.dataType?, kind]
    exact .pure _
  | number =>
    simp only [Slot.dataType?, kind]
    exact (keeps_readable_putText kind fun text => reads_of_routed routed kind).bind
      fun _ => .pure _
  | set =>
    simp only [Slot.dataType?, kind]
    exact (keeps_readable_eraseMember kind feature thing).bind fun _ => .pure _
  | document =>
    simp only [Slot.dataType?, kind]
    refine Keeps.bind (.modify fun records h => h.mono fun other key => ?_) fun _ => .pure _
    rw [cell?_eraseCell]
    split
    · exact .inl rfl
    · exact .inr rfl

end Filing

/-- A write that flags may make; what it writes in a gate has been routed there. -/
def Write.IsRouted : Write → Prop
  | .enable (.gate gate) thing => (Demand.change .enable gate thing).IsRouted
  | .disable (.gate gate) thing => (Demand.change .disable gate thing).IsRouted
  | .enable (.foreign _) _ => False
  | .disable (.foreign _) _ => False
  | _ => True

/-- What flags write keeps the records such that they can be read. -/
theorem Write.IsRouted.files {write : Write} (routed : write.IsRouted) (feature : String) :
    write.Files Records.Readable feature := by
  cases write with
  | add => exact Filing.keeps_readable_add feature
  | remove => exact Filing.keeps_readable_remove feature
  | clear => exact Filing.keeps_readable_clear feature
  | enable slot thing =>
    cases slot with
    | gate gate => exact Filing.keeps_readable_enable routed feature
    | foreign name => exact False.elim routed
  | disable slot thing =>
    cases slot with
    | gate gate =>
      exact ⟨Filing.keeps_readable_disable routed feature, Filing.keeps_readable_clear feature⟩
    | foreign name => exact False.elim routed

theorem Demand.isRouted_toWrite {c : Change} {gate : Gate} {thing : Value}
    (routed : (change c gate thing).IsRouted) : (c.toWrite gate thing).IsRouted := by
  cases c with
  | enable => exact routed
  | disable => exact routed

end FeatureGates
