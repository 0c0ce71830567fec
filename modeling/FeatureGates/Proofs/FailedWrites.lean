import FeatureGates.Proofs.StoredTrees

/-!
# What writes leave behind that fail

A change of a gate takes two writes: the feature is added, and then its gate
is written. Nothing is taken back, so a thing that is accepted and then
cannot be written, for want of a text or a document, leaves a feature that
exists (`FlagSet.remains_after_failure`).

That is all that a failure leaves where the gate has a cell, or keeps no
set; otherwise there may be an empty set as well (`Filing.spared_of_failed`).
What is refused before the first write leaves nothing at all
(`FlagSet.failed_writes_spare`).
-/

namespace FeatureGates

attribute [local instance (2000)] instPowNat

/-- Enabling that has to make the set of a gate for its member first. -/
def Write.Opens (gate : Gate) (feature : String) (records : Records) : Write → Prop
  | .enable slot _ =>
    slot = .gate gate ∧ gate.dataType = .set ∧ records.cell? feature gate.key = none
  | _ => False

/-- Records in which a failed write to a feature has made that feature exist, and at most opened
the set for its member. -/
structure Records.Spared (feature : String) (w : Write) (before after : Records) : Prop where
  others (other : String) : other ≠ feature → after.find? other = before.find? other
  typed (other : String) : GateValues.ofEntries (after.readFeature other) =
    GateValues.ofEntries (before.readFeature other)
  left : after = before.ensure feature ∨ ∃ gate, w.Opens gate feature before ∧
    after = (before.ensure feature).putCell feature gate.key (.plain (.set []))

namespace Filing

variable {feature : String} {w : Write} {records after : Records} {failure : Failure}

theorem spared_of_failed (h : write feature w records = .error failure after) :
    records.Spared feature w after where
  others other ho := find?_of_failed h ho
  typed other := typed_of_failed h other
  left := by
    rcases write_failed h with same | ⟨gate, thing, rfl, kind, unset, -, opened⟩
    · exact .inl same
    · exact .inr ⟨gate, ⟨rfl, kind, unset⟩, opened⟩

/-- A change that fails fails in its second write. -/
theorem spared_of_change_failed {c : Change} {gate : Gate} {thing : Value}
    (h : change feature c gate thing records = .error failure after) :
    after.contains feature = true ∧ records.Spared feature (c.toWrite gate thing) after := by
  rw [change_apply] at h
  have spared := spared_of_failed h
  have exists_on := keeps_contains feature (w := c.toWrite gate thing) (by cases c <;> nofun)
  refine ⟨exists_on.of_error (records.contains_ensure_self feature) h, ?_⟩
  exact {
    others := fun other ho => (spared.others other ho).trans (records.find?_ensure ho)
    typed := fun other => (spared.typed other).trans
      (Records.typed_congr fun key => records.cell?_ensure ..)
    left := by
      rcases spared.left with same | ⟨opened, opens, same⟩
      · exact .inl (same.trans (records.ensure_ensure feature))
      · rw [records.ensure_ensure] at same
        refine .inr ⟨opened, ?_, same⟩
        cases c with
        | enable => exact ⟨opens.1, opens.2.1, (records.cell?_ensure ..).symm.trans opens.2.2⟩
        | disable => exact opens }

/-- A thing without a document is not written, and its feature exists. -/
theorem enable_expression_failed (feature : String) {thing : Value}
    (h : heldDocument thing = .error failure) (records : Records) :
    change feature .enable .expression thing records =
      .error failure (records.ensure feature) := by
  have kind : (Slot.gate .expression).dataType? = some .document := rfl
  rw [change_apply]
  simp only [Change.toWrite, write, enable, bind_apply, modify_apply, Records.ensure_ensure, kind,
    putDocument_apply, h]

end Filing

namespace FlagSet

/-- What is left of a demand that an action could not meet. -/
def LeftBy (feature : String) (before after : Records) : Except Failure Demand → Prop
  | .error _ => after = before
  | .ok (.change c gate thing) =>
    after.contains feature = true ∧ before.Spared feature (c.toWrite gate thing) after
  | .ok _ => False

variable {store : String} {registry : Registry} {world world' : World} {feature : String}
  {failure : Failure}

theorem spared_of_write_failed (name : String)
    (available : ∀ count operation, (world.store store).outage count operation = none) {w : Write}
    (ran : (Adapter.memory store name).write feature w world = .error failure world') :
    (world.store store).records.Spared feature w (world'.store store).records := by
  have ends := write_memory name (World.holds_self available) feature w
  cases filed : Filing.write feature w (world.store store).records with
  | ok made after =>
    rw [filed] at ends
    obtain ⟨_, made, -⟩ := ends
    cases ran.symm.trans made
  | error _ after =>
    rw [filed] at ends
    obtain ⟨_, failed, held⟩ := ends
    cases ran.symm.trans failed
    rw [held.records]
    exact Filing.spared_of_failed filed

theorem left_of_run_failed (name : String) (instrumenter : Instrumenter) (meaning : Meaning)
    (available : ∀ count operation, (world.store store).outage count operation = none)
    {action : Action} {demand : Except Failure Demand}
    (demanded : action.demand? registry = some demand)
    (ran : action.run (bare store name instrumenter registry meaning) feature world =
      .error failure world') :
    LeftBy feature (world.store store).records (world'.store store).records demand := by
  have holds := World.holds_self available
  cases demand with
  | error refusal =>
    obtain ⟨_, refused, held⟩ := run_bare_refused name instrumenter meaning holds feature demanded
    cases ran.symm.trans refused
    exact held.records
  | ok d =>
    have ends := run_bare_ends name instrumenter meaning holds feature demanded
    rw [ran] at ends
    cases filed : d.filing feature (world.store store).records with
    | ok made after =>
      rw [filed] at ends
      exact False.elim ends
    | error _ after =>
      rw [filed] at ends
      obtain ⟨-, held⟩ := ends
      cases d with
      | add =>
        rw [Demand.filing, Filing.write_add] at filed
        cases filed
      | remove => cases filed
      | clear => cases filed
      | change c gate thing =>
        show _ ∧ _
        rw [held.records]
        exact Filing.spared_of_change_failed filed

/-- A write to a store that fails leaves other features and all typed values as they were, makes
its own feature exist, and at most opens a set; so does an action that fails, and one whose
arguments are refused leaves all as it was. -/
theorem failed_writes_spare (store name : String) (instrumenter : Instrumenter)
    (registry : Registry) (meaning : Meaning) (world : World)
    (available : ∀ count operation, (world.store store).outage count operation = none) :
    (∀ (feature : String) (w : Write) (failure : Failure) (world' : World),
      (Adapter.memory store name).write feature w world = .error failure world' →
        (world.store store).records.Spared feature w (world'.store store).records) ∧
      ∀ (feature : String) (action : Action) (demand : Except Failure Demand) (failure : Failure)
        (world' : World), action.demand? registry = some demand →
        action.run (bare store name instrumenter registry meaning) feature world =
          .error failure world' →
        LeftBy feature (world.store store).records (world'.store store).records demand := by
  exact ⟨fun _ _ _ _ ran => spared_of_write_failed name available ran,
    fun _ _ _ _ _ demanded ran =>
      left_of_run_failed name instrumenter meaning available demanded ran⟩

/-- A gate that a store does not know is written, and an actor's id where a percentage belongs. -/
theorem failed_writes_spare_refused :
    ∃ failure world',
      (Adapter.memory "store" "memory").write "search" (.enable (.foreign "other") .null)
        (.fresh ⟨fun _ => .int 0, 0, .int 0, [], []⟩) = .error failure world' ∧
      Records.Spared "search" (.enable (.foreign "other") .null) .empty
        (world'.store "store").records ∧
      ∃ failure' world'',
        (Action.enablePercentageOfTime (.text "User;1")).run
          (bare "store" "memory" .none .standard fun _ _ => pure (.fresh .null)) "search"
          (.fresh ⟨fun _ => .int 0, 0, .int 0, [], []⟩) = .error failure' world'' ∧
        (world''.store "store").records = .empty := by
  obtain ⟨direct, asked⟩ := failed_writes_spare "store" "memory" .none .standard
    (fun _ _ => pure (.fresh .null)) (.fresh ⟨fun _ => .int 0, 0, .int 0, [], []⟩) fun _ _ => rfl
  exact ⟨_, _, rfl, direct "search" (.enable (.foreign "other") .null) _ _ rfl,
    _, _, rfl, asked "search" (.enablePercentageOfTime (.text "User;1")) _ _ _ rfl rfl⟩

/-- An integer that has one digit too many to be written. -/
def unwritable : Scalar := .number (.int (Int.ofNat ((10 : Nat) ^ (4300 : Nat))))

/-- A lone one is taken for an expression, and then has no document; its feature has been added. -/
theorem enableExpression_unwritable (world : World)
    (available : ∀ count operation, (world.store "store").outage count operation = none) :
    ∃ failure world',
      (Action.enableExpression (.record [(.text "Constant", .scalar unwritable)])).run
        (bare "store" "memory" .none .standard fun _ _ => pure (.fresh .null)) "search" world =
          .error failure world' ∧
      (world'.store "store").records = (world.store "store").records.ensure "search" := by
  have built : Node.build .standard (.record [(.text "Constant", .scalar unwritable)]) =
      .ok (.constant unwritable) := Number.ok_of_toOption (by decide +kernel)
  have undocumented : (Filing.heldDocument
      (.wrapped (.expression (.constant unwritable)))).toOption.isNone = true := by decide +kernel
  cases held : Filing.heldDocument (.wrapped (.expression (.constant unwritable))) with
  | ok document =>
    rw [held] at undocumented
    cases undocumented
  | error failure =>
    have ends := run_bare_ends "memory" .none (fun _ _ => pure (.fresh .null))
      (World.holds_self available) "search" (demand?_enableExpression built)
    have filed := Filing.enable_expression_failed "search" held (world.store "store").records
    rw [Demand.filing, filed] at ends
    obtain ⟨world', ran, left⟩ := ends.of_error
    exact ⟨failure, world', ran, left.records⟩

/-- Enabling it fails and leaves a feature that was not there. -/
theorem remains_after_failure :
    ∃ failure world',
      (Action.enableExpression (.record [(.text "Constant", .scalar unwritable)])).run
        (bare "store" "memory" .none .standard fun _ _ => pure (.fresh .null)) "search"
        (.fresh ⟨fun _ => .int 0, 0, .int 0, [], []⟩) = .error failure world' ∧
      ((World.fresh ⟨fun _ => .int 0, 0, .int 0, [], []⟩).store "store").records.contains
        "search" = false ∧
      (world'.store "store").records.contains "search" = true := by
  obtain ⟨failure, world', ran, left⟩ := enableExpression_unwritable
    (.fresh ⟨fun _ => .int 0, 0, .int 0, [], []⟩) fun _ _ => rfl
  refine ⟨failure, world', ran, rfl, ?_⟩
  rw [left]
  exact Records.contains_ensure_self _ _

end FlagSet

end FeatureGates
