import FeatureGates.Proofs.Cells
import FeatureGates.Proofs.Reference
import FeatureGates.Proofs.Refinement

/-!
# Laws of the reference machine

What the rules of a reference machine come to, one rule at a time. Reading
and being refused leave everything as it is (`Rules.read_keeps`,
`Rules.guardWrite_keeps`).

The demand to write a gate is guarded as a whole. That is the same as
adding the feature and then making the write, each guarded by itself
(`Rules.carryOut_change`): a feature that is refused another actor has one,
so it exists and adding it first does nothing.
-/

namespace FeatureGates

variable {α β : Type}

namespace Machine

theorem file_bind (filing : Filing α) (next : α → Filing β) :
    file (filing >>= next) = file filing >>= fun a => file (next a) := by
  funext s
  have ran : (filing >>= next).run s.records = EStateM.bind filing next s.records := rfl
  rw [bind_apply]
  unfold file
  rw [ran]
  unfold EStateM.bind
  cases filed : filing.run s.records with
  | ok value records =>
    have filed : filing s.records = .ok value records := filed
    rw [filed]
    rfl
  | error failure records =>
    have filed : filing s.records = .error failure records := filed
    rw [filed]

end Machine

namespace Filing

/-- Adding makes a feature exist and tells whether it is new. -/
theorem add_apply (feature : String) (records : Records) :
    add feature records = .ok (!records.contains feature) (records.ensure feature) := by
  unfold Records.ensure
  simp only [add, bind_apply, get_apply]
  cases records.contains feature <;> rfl

theorem write_add (feature : String) (records : Records) :
    write feature .add records = .ok (!records.contains feature) (records.ensure feature) :=
  add_apply feature records

end Filing

namespace Rules

variable {rules : Rules}

/-! ## Reading -/

theorem read_of_lenient (h : rules.refusesMissing = false) (r : Read α) :
    rules.read r = (do return (← get).records.read r) := by
  unfold read
  rw [h]
  rfl

theorem read_of_refusing (h : rules.refusesMissing = true) (r : Read α) :
    rules.read r = (do requireAll r.subjects; return (← get).records.read r) := by
  unfold read
  rw [h]
  rfl

theorem requireAll_cons (feature : String) (rest : List String) :
    requireAll (feature :: rest) = (do
      if (← get).records.contains feature then requireAll rest
      else throw (.featureNotFound feature)) := by
  funext s
  unfold requireAll missing?
  simp only [bind_apply, get_apply, List.find?_cons]
  cases s.records.contains feature <;> rfl

/-- A read is answered if no rule stands against it. -/
theorem read_of_found {r : Read α} {s : ReferenceState}
    (h : rules.refusesMissing = true → missing? s.records r.subjects = none) :
    rules.read r s = .ok (s.records.read r) s := by
  cases hr : rules.refusesMissing with
  | false =>
    rw [read_of_lenient hr]
    rfl
  | true =>
    rw [read_of_refusing hr]
    simp only [bind_apply, requireAll, get_apply, h hr]
    rfl

theorem read_of_missing (hr : rules.refusesMissing = true) {r : Read α} {s : ReferenceState}
    {feature : String} (h : missing? s.records r.subjects = some feature) :
    rules.read r s = .error (.featureNotFound feature) s := by
  rw [read_of_refusing hr]
  simp only [bind_apply, requireAll, get_apply, h]
  rfl

/-- Reading gives an answer or refuses it, and leaves everything as it is. -/
theorem read_keeps (rules : Rules) (r : Read α) (s : ReferenceState) :
    rules.read r s = .ok (s.records.read r) s ∨ ∃ e, rules.read r s = .error e s := by
  cases found : missing? s.records r.subjects with
  | none => exact .inl (read_of_found fun _ => found)
  | some feature =>
    cases hr : rules.refusesMissing with
    | false => exact .inl (read_of_found fun refuses => nomatch hr.symm.trans refuses)
    | true => exact .inr ⟨_, read_of_missing hr found⟩

/-! ## Writing -/

theorem guardWrite_of_readOnly (h : rules.readOnly = true) (feature : String)
    (w : Write) : rules.guardWrite feature w = throw (.writeAttempted Failure.readOnlyReason) := by
  unfold guardWrite
  rw [h]
  rfl

theorem guardWrite_of_unlimited (h : rules.readOnly = false)
    (hl : rules.actorLimit = none) (feature : String) (w : Write) :
    rules.guardWrite feature w = pure () := by
  unfold guardWrite
  rw [h, hl]
  rfl

theorem guardWrite_of_limited {limit : Int} (h : rules.readOnly = false)
    (hl : rules.actorLimit = some limit) (feature : String) (w : Write) :
    rules.guardWrite feature w =
      if Adapter.addsActor w then guardActors limit feature else pure () := by
  unfold guardWrite
  rw [h, hl]
  rfl

theorem guardWrite_add (h : rules.readOnly = false) (feature : String) :
    rules.guardWrite feature .add = pure () := by
  cases hl : rules.actorLimit with
  | none => exact guardWrite_of_unlimited h hl feature .add
  | some limit => exact guardWrite_of_limited h hl feature .add

/-- The ids that a feature has decide whether another one is refused. -/
theorem guardActors_apply (limit : Int) (feature : String) (s : ReferenceState) :
    guardActors limit feature s =
      match Raw.toNames (Entries.get (s.records.readFeature feature) Gate.actor.key) with
      | .ok names =>
        if limit ≤ names.size then .error (.actorLimitExceeded feature limit) s else .ok () s
      | .error failure => .error failure s := by
  simp only [guardActors, isFull, bind_apply, get_apply]
  cases Raw.toNames (Entries.get (s.records.readFeature feature) Gate.actor.key) with
  | error failure => rfl
  | ok names =>
    by_cases full : limit ≤ names.size
    · simp only [Machine.ofExcept, pure_apply, full, decide_true, if_true, throw_apply]
    · simp only [Machine.ofExcept, pure_apply, full, decide_false, if_false, Bool.false_eq_true]

/-- Being refused or not leaves everything as it is. -/
theorem guardWrite_keeps (rules : Rules) (feature : String) (w : Write) (s : ReferenceState) :
    rules.guardWrite feature w s = .ok () s ∨ ∃ e, rules.guardWrite feature w s = .error e s := by
  cases h : rules.readOnly with
  | true =>
    rw [guardWrite_of_readOnly h]
    exact .inr ⟨_, rfl⟩
  | false =>
    cases hl : rules.actorLimit with
    | none =>
      rw [guardWrite_of_unlimited h hl]
      exact .inl rfl
    | some limit =>
      rw [guardWrite_of_limited h hl]
      split
      · rw [guardActors_apply]
        split
        · split
          · exact .inr ⟨_, rfl⟩
          · exact .inl rfl
        · exact .inr ⟨_, rfl⟩
      · exact .inl rfl

/-- A limit on actors leaves room for at least one. -/
def Sound (rules : Rules) : Prop := ∀ limit ∈ rules.actorLimit, 1 ≤ limit

theorem sound_lenient : lenient.Sound := fun _ mem => nomatch mem

/-- Nothing but all writes is refused to a feature without actors. -/
theorem guardWrite_of_empty (hs : rules.Sound) (h : rules.readOnly = false) {feature : String}
    {s : ReferenceState} (hf : Entries.get (s.records.readFeature feature) Gate.actor.key = .null)
    (w : Write) : rules.guardWrite feature w s = .ok () s := by
  cases hl : rules.actorLimit with
  | none => rw [guardWrite_of_unlimited h hl, pure_apply]
  | some limit =>
    have room : 1 ≤ limit := hs limit hl
    rw [guardWrite_of_limited h hl]
    split
    · rw [guardActors_apply, hf]
      show (if limit ≤ (0 : Nat) then _ else _) = _
      rw [if_neg (by omega)]
    · rfl

theorem write_add (h : rules.readOnly = false) (feature : String) :
    rules.write feature .add = Machine.file (Filing.add feature) := by
  rw [write, guardWrite_add h, pure_bind]
  rfl

/-- A feature that was added exists. -/
theorem contains_of_write_add {feature : String} {s t : ReferenceState} {made : Bool}
    (h : rules.write feature .add s = .ok made t) : t.records.contains feature = true := by
  cases hr : rules.readOnly with
  | true =>
    rw [write, guardWrite_of_readOnly hr] at h
    cases h
  | false =>
    rw [write_add hr, Machine.file, EStateM.run, Filing.add_apply] at h
    cases h
    rw [Records.contains_ensure, decide_eq_true rfl, Bool.true_or]

/-- Adding a feature first makes no difference to a gate that is written next. -/
theorem add_then_write (hs : rules.Sound) (h : rules.readOnly = false) (feature : String)
    (w : Write) :
    (Machine.file (Filing.add feature) >>= fun _ => rules.write feature w) =
      (rules.guardWrite feature w >>= fun _ =>
        Machine.file (Filing.add feature) >>= fun _ => Machine.file (Filing.write feature w)) := by
  funext s
  have filed : Machine.file (Filing.add feature) s =
      .ok (!s.records.contains feature) { s with records := s.records.ensure feature } := by
    unfold Machine.file EStateM.run
    rw [Filing.add_apply]
  simp only [write, bind_apply, filed]
  cases hc : s.records.contains feature with
  | true =>
    have same : s.records.ensure feature = s.records := if_pos hc
    rw [same]
    rcases rules.guardWrite_keeps feature w s with passed | ⟨failure, refused⟩
    · simp only [passed, filed, same]
    · simp only [refused]
  | false =>
    have nobody (records : Records) (hn : ∀ key, records.cell? feature key = none) :
        Entries.get (records.readFeature feature) Gate.actor.key = .null := by
      rw [Records.get_readFeature, hn]
      rfl
    have none := Records.cell?_of_missing hc
    have before := guardWrite_of_empty hs h (nobody s.records none) w
    have after := guardWrite_of_empty (s := { s with records := s.records.ensure feature }) hs h
      (nobody _ fun key => (Records.cell?_ensure ..).trans (none key)) w
    simp only [before, after, filed]

/-- The demand to write a gate is the adding of the feature and the write. -/
theorem carryOut_change (hs : rules.Sound) (feature : String) (c : Change) (gate : Gate)
    (thing : Value) :
    rules.carryOut feature (.change c gate thing) =
      rules.write feature .add >>= fun _ => rules.write feature (c.toWrite gate thing) := by
  cases h : rules.readOnly with
  | true =>
    show (rules.guardWrite feature _ >>= _) = ((rules.guardWrite feature _ >>= _) >>= _)
    rw [guardWrite_of_readOnly h, guardWrite_of_readOnly h]
    rfl
  | false =>
    rw [write_add h, add_then_write hs h, ← Machine.file_bind]
    rfl

/-- Without rules a demand is filed. -/
theorem carryOut_lenient (feature : String) (demand : Demand) :
    lenient.carryOut feature demand = Machine.file (demand.filing feature) := by
  have passed (w : Write) : lenient.guardWrite feature w = pure () :=
    guardWrite_of_unlimited rfl rfl feature w
  cases demand <;> simp only [carryOut, write, passed, pure_bind] <;> rfl

end Rules

/-! ## Questions -/

namespace Reference

theorem values_keeps (reference : Reference) (feature : String) (s : ReferenceState) :
    (∃ v, reference.values feature s = .ok v s) ∨ ∃ e, reference.values feature s = .error e s := by
  simp only [values, bind_apply]
  rcases reference.rules.read_keeps (.get feature) s with given | ⟨failure, refused⟩
  · simp only [given]
    cases GateValues.ofEntries (s.records.read (.get feature)) with
    | ok v => exact .inl ⟨v, rfl⟩
    | error failure => exact .inr ⟨failure, rfl⟩
  · simp only [refused]
    exact .inr ⟨failure, rfl⟩

/-- What was read may be read again. -/
theorem values_again (reference : Reference) (feature : String)
    (f : GateValues → GateValues → Machine α) :
    (do let v ← reference.values feature; let w ← reference.values feature; f v w) =
      (do let v ← reference.values feature; f v v) := by
  funext s
  simp only [bind_apply]
  rcases reference.values_keeps feature s with ⟨v, given⟩ | ⟨failure, refused⟩
  · simp only [given]
  · simp only [refused]

end Reference

end FeatureGates
