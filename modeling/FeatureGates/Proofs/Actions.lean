import FeatureGates.Proofs.Filing
import FeatureGates.Proofs.Observing

/-!
# Actions on flags are those of the reference machine

An adapter that is only asked through flags need not answer every read
exactly: of the values of a feature only their typed form is looked at, of
many values nothing, and of all values the names (`Read.Alike`). Nor does it
see every write: a gate is only written after its feature has been added
(`Write.Suits`).

An action that demands something ends as meeting the demand does, reports
aside (`FlagSet.run_runsLike`), whatever becomes of the writes that takes.
Behind an adapter that serves in this sense (`Serves`) every action ends
like the action of the reference machine: demands (`FlagSet.demand_matches`)
and, if what is added to checks is oblivious, questions
(`FlagSet.ask_matches`).
-/

namespace FeatureGates

variable {α β γ τ : Type}

/-- Answers to a read that flags do not tell apart. -/
def Read.Alike : {α : Type} → Read α → α → α → Prop
  | _, .features, a, b => a = b
  | _, .get _, a, b => GateValues.ofEntries a = GateValues.ofEntries b
  | _, .getMulti _, _, _ => True
  | _, .getAll, a, b => (a.rows.map (·.1)).Perm (b.rows.map (·.1))

theorem Read.Alike.refl (r : Read α) (a : α) : r.Alike a a := by
  cases r with
  | features => rfl
  | get feature => rfl
  | getMulti features => trivial
  | getAll => exact .refl _

/-- A read of a world related by `P` ends like that of a machine under the rules, as far as flags
can tell, and leaves a world related by `R`. -/
def Responds (adapter : Adapter) (rules : Rules) (P R : World → ReferenceState → Prop)
    (r : Read α) : Prop :=
  MatchesFrom P R r.Alike (adapter.read r) (rules.read r)

/-- Reads and the writes that flags make end like those of a machine under the rules. -/
structure Serves (adapter : Adapter) (rules : Rules) (R : World → ReferenceState → Prop) :
    Prop where
  grounded : Grounded R
  read {α : Type} (r : Read α) : Matches R r.Alike (adapter.read r) (rules.read r)
  write (feature : String) (w : Write) :
    Refines (fun v s => R v s ∧ w.Suits feature s.records) (adapter.write feature w)
      (rules.write feature w) (fun a b v s => a = b ∧ R v s) R

theorem ServesExactly.serves {adapter : Adapter} {rules : Rules}
    {R : World → ReferenceState → Prop} (h : ServesExactly adapter rules R) :
    Serves adapter rules R where
  grounded := h.grounded
  read r := (h.read r).mono fun a _ same => same ▸ Read.Alike.refl r a
  write feature w := Refines.mono (h.write feature w) (fun _ _ hr => hr.1) (fun _ _ _ _ hr => hr)
    fun _ _ hr => hr

/-! ## Instrumented adapters -/

theorem Adapter.tame_payloadOf (operation name : String) {details : List (String × Value)}
    (h : ∀ row ∈ details, TameField row.1) :
    ∀ row ∈ payloadOf operation name details, TameField row.1 := by
  intro row mem
  rcases List.mem_append.1 mem with own | given
  · rcases List.mem_cons.1 own with rfl | own
    · show TameField "operation"
      decide
    · rw [List.mem_singleton.1 own]
      show TameField "adapter_name"
      decide
  · exact h row given

theorem Read.tame_details (r : Read α) : ∀ row ∈ r.details, TameField row.1 := by
  intro row mem
  cases r with
  | features => exact absurd mem List.not_mem_nil
  | get feature =>
    rw [List.mem_singleton.1 mem]
    show TameField "feature_name"
    decide
  | getMulti features =>
    rw [List.mem_singleton.1 mem]
    show TameField "feature_names"
    decide
  | getAll => exact absurd mem List.not_mem_nil

theorem Write.tame_details (feature : String) (w : Write) :
    ∀ row ∈ w.details feature, TameField row.1 := by
  intro row mem
  rcases List.mem_cons.1 mem with rfl | mem
  · show TameField "feature_name"
    decide
  · obtain ⟨gate, -, rfl⟩ := Option.map_eq_some_iff.1 (Option.mem_toList.1 mem)
    show TameField "gate_name"
    decide

/-- An operation that an adapter watches ends like the operation. -/
theorem Adapter.watched_refines {P R : World → ReferenceState → Prop} {A : α → β → Prop}
    (hR : Unseeing R) (instrumenter : Instrumenter) (operation name : String)
    {details : List (String × Value)} (hd : ∀ row ∈ details, TameField row.1) (shown : α → Value)
    {run : Run α} {spec : Machine β} (h : MatchesFrom P R A run spec) :
    MatchesFrom P R A (watched instrumenter operation name details shown run) spec := by
  refine Instrumenter.observe_refines hR.unreported instrumenter _
    (tame_payloadOf operation name hd) shown ?_
  rw [← bind_pure spec]
  refine Refines.bind (Observed.ofRun_refines h) ?_
  intro a b w s hw
  exact ⟨hw.1, hw.2.1.put (by decide) (shown a), hw.2.2⟩

theorem Serves.instrumented {adapter : Adapter} {rules : Rules}
    {R : World → ReferenceState → Prop} (h : Serves adapter rules R)
    (instrumenter : Instrumenter) : Serves (.instrumented instrumenter adapter) rules R where
  grounded := h.grounded
  read r := Adapter.watched_refines h.grounded.unseeing instrumenter _ _ r.tame_details r.shown
    (h.read r)
  write feature w := Adapter.watched_refines h.grounded.unseeing instrumenter _ _
    (w.tame_details feature) Value.bool (h.write feature w)

/-! ## Actions behind an adapter -/

namespace FlagSet

/-- Rules for a flag set's adapter, and what its questions need. -/
def reference (flags : FlagSet) (rules : Rules) : Reference :=
  ⟨rules, flags.registry, flags.meaning, flags.adapter.name⟩

theorem observe_refines {P R : World → τ → Prop} (hR : Unreported R) (flags : FlagSet)
    (feature operation : String) {body : Observed Bool} {spec : EStateM Failure τ Bool}
    (h : MatchesFrom (Watched P) (Watched R) Eq body spec) :
    MatchesFrom P R Eq (flags.observe feature operation body) spec := by
  refine Instrumenter.observe_refines hR flags.instrumenter _ (fun row mem => ?_) Value.bool h
  rcases List.mem_cons.1 mem with rfl | mem
  · show TameField "feature_name"
    decide
  · rw [List.mem_singleton.1 mem]
    show TameField "operation"
    decide

/-! ### The writes that a demand takes -/

/-- Meets a demand, and reports nothing. -/
def meet (flags : FlagSet) (feature : String) : Demand → Run Bool
  | .add => flags.adapter.write feature .add
  | .remove => flags.adapter.write feature .remove
  | .clear => flags.adapter.write feature .clear
  | .change c gate thing => flags.writeGate feature c gate thing

/-- From one world the two runs end alike, in worlds that differ by reports of the first. -/
abbrev RunsLike (A : α → β → Prop) (run : Run α) (quiet : Run β) : Prop :=
  MatchesFrom Eq (fun v w => World.Reported w v) A run quiet

theorem observe_runsLike (flags : FlagSet) (feature operation : String) {body : Observed Bool}
    {quiet : Run Bool} (h : Matches (Watched Eq) Eq body quiet) :
    RunsLike Eq (flags.observe feature operation body) quiet := by
  have ignored : Unreported fun v w : World => World.Reported w v :=
    fun _ _ _ reported before => before.trans reported
  have reported {watched : Payload × World} {w : World} (same : Watched Eq watched w) :
      Watched (fun v w => World.Reported w v) watched w :=
    ⟨same.1, same.2 ▸ .refl watched.2⟩
  exact observe_refines ignored flags feature operation
    (Refines.mono h (fun _ _ same => same) (fun _ _ _ _ ends => ⟨ends.1, reported ends.2⟩)
      fun _ _ same => reported same)

/-- What an argument is refused for, it is refused for before anything is written. -/
theorem ofExcept_runsLike (result : Except Failure α) {run : α → Run β} {quiet : α → Run γ}
    {A : β → γ → Prop} (h : ∀ a, RunsLike A (run a) (quiet a)) :
    RunsLike A (Run.ofExcept result >>= run) (Run.ofExcept result >>= quiet) := by
  cases result with
  | ok a => exact h a
  | error failure =>
    rintro w _ rfl
    exact ⟨rfl, .refl w⟩

theorem change_runsLike (flags : FlagSet) (feature : String) (c : Change) (thing : Value) :
    RunsLike Eq (flags.change feature c thing)
      (Run.ofExcept (c.demand flags.registry thing) >>= flags.meet feature) := by
  unfold change Change.demand
  simp only [Run.ofExcept_bind, bind_assoc]
  refine ofExcept_runsLike _ fun gate => ofExcept_runsLike _ fun wrapped => ?_
  refine observe_runsLike flags feature c.name ?_
  refine (Observed.note_matches (by decide) _).skip_bind fun _ => ?_
  refine (Observed.note_matches (by decide) _).skip_bind fun _ => ?_
  exact Observed.ofRun_matches (.refl _)

theorem changeWrapped_runsLike (flags : FlagSet) (feature : String) (c : Change)
    (wrapped : Except Failure Wrapped) :
    RunsLike Eq (flags.changeWrapped feature c wrapped)
      (Run.ofExcept (c.demandWrapped flags.registry wrapped) >>= flags.meet feature) := by
  unfold changeWrapped Change.demandWrapped
  simp only [Run.ofExcept_bind, bind_assoc]
  exact ofExcept_runsLike _ fun thing => change_runsLike flags feature c _

/-- Whatever an action demands, it does what meeting the demand does, and reports it. -/
theorem run_runsLike (flags : FlagSet) (feature : String) {action : Action}
    {demand : Except Failure Demand} (h : action.demand? flags.registry = some demand) :
    RunsLike (fun answer b => answer = .truth b) (action.run flags feature)
      (Run.ofExcept demand >>= flags.meet feature) := by
  have truth {run : Run Bool}
      (like : RunsLike Eq run (Run.ofExcept demand >>= flags.meet feature)) :
      RunsLike (fun answer b => answer = Answer.truth b) (Answer.truth <$> run)
        (Run.ofExcept demand >>= flags.meet feature) := by
    have mapped := Refines.map (f := Answer.truth) (g := id)
      (S := fun answer b v w => answer = Answer.truth b ∧ World.Reported w v) like
      fun a b _ _ ends => ⟨congrArg Answer.truth ends.1, ends.2⟩
    rwa [id_map] at mapped
  have single (operation : String) (w : Write) :
      RunsLike Eq
        (flags.observe feature operation (Observed.ofRun (flags.adapter.write feature w)))
        (flags.adapter.write feature w) :=
    observe_runsLike flags feature operation (Observed.ofRun_matches (.refl _))
  cases action with
  | add =>
    cases h
    exact truth (single "add" .add)
  | remove =>
    cases h
    exact truth (single "remove" .remove)
  | clear =>
    cases h
    exact truth (single "clear" .clear)
  | change c thing =>
    cases h
    exact truth (change_runsLike flags feature c thing)
  | changeActor c actor =>
    cases h
    exact truth (changeWrapped_runsLike flags feature c _)
  | changeGroup c group =>
    cases h
    exact truth (changeWrapped_runsLike flags feature c _)
  | enablePercentageOfActors p =>
    cases h
    exact truth (changeWrapped_runsLike flags feature .enable _)
  | enablePercentageOfTime p =>
    cases h
    exact truth (changeWrapped_runsLike flags feature .enable _)
  | enableExpression e =>
    cases h
    exact truth (changeWrapped_runsLike flags feature .enable _)
  | disablePercentageOfActors =>
    cases h
    exact truth (changeWrapped_runsLike flags feature .disable _)
  | disablePercentageOfTime =>
    cases h
    exact truth (changeWrapped_runsLike flags feature .disable _)
  | disableExpression =>
    cases h
    refine truth (observe_runsLike flags feature _ ?_)
    refine (Observed.note_matches (by decide) _).skip_bind fun _ => ?_
    exact Observed.ofRun_matches (.refl _)
  | _ => cases h

/-! ### Demands behind an adapter that serves -/

variable {flags : FlagSet} {rules : Rules} {R : World → ReferenceState → Prop}

/-- Writing a gate meets the demand to write it. -/
theorem writeGate_matches (hs : Serves flags.adapter rules R) (hr : rules.Sound) (feature : String)
    (c : Change) (gate : Gate) (thing : Value) :
    Matches R Eq (flags.writeGate feature c gate thing)
      (rules.carryOut feature (.change c gate thing)) := by
  rw [rules.carryOut_change hr]
  have added : Refines R (flags.adapter.write feature .add) (rules.write feature .add)
      (fun a b w s => (a = b ∧ R w s) ∧ s.records.contains feature = true) R := by
    refine Refines.and_spec ?_ ?_
    · exact (hs.write feature .add).mono (fun _ _ h => ⟨h, trivial⟩) (fun _ _ _ _ h => h)
        fun _ _ h => h
    · exact fun _ _ _ _ _ ran => Rules.contains_of_write_add ran
  refine Refines.bind added fun _ _ => ?_
  refine (hs.write feature (c.toWrite gate thing)).mono (fun w s h => ⟨h.1.2, ?_⟩)
    (fun _ _ _ _ h => h) fun _ _ h => h
  cases c with
  | enable => exact h.2
  | disable => exact h.2

theorem meet_matches (hs : Serves flags.adapter rules R) (hr : rules.Sound) (feature : String)
    (demand : Demand) :
    Matches R Eq (flags.meet feature demand) (rules.carryOut feature demand) := by
  have single (w : Write) (hw : ∀ records, w.Suits feature records) :
      Matches R Eq (flags.adapter.write feature w) (rules.write feature w) :=
    (hs.write feature w).mono (fun _ _ h => ⟨h, hw _⟩) (fun _ _ _ _ h => h) fun _ _ h => h
  cases demand with
  | add => exact single .add fun _ => trivial
  | remove => exact single .remove fun _ => trivial
  | clear => exact single .clear fun _ => trivial
  | change c gate thing => exact writeGate_matches hs hr feature c gate thing

/-- Whatever an action demands is done, or refused, as the machine does it. -/
theorem demand_matches (hs : Serves flags.adapter rules R) (hr : rules.Sound) (feature : String)
    {action : Action} {demand : Except Failure Demand}
    (h : action.demand? flags.registry = some demand) :
    Matches R Eq (action.run flags feature)
      (do return .truth (← rules.carryOut feature (← Machine.ofExcept demand))) := by
  have met : Matches R Eq (Run.ofExcept demand >>= flags.meet feature)
      (Machine.ofExcept demand >>= rules.carryOut feature) := by
    refine (Run.ofExcept_matches demand).bind ?_
    intro d _ same
    rw [← same]
    exact meet_matches hs hr feature d
  have acted : Refines R (action.run flags feature)
      (Machine.ofExcept demand >>= rules.carryOut feature)
      (fun answer b w s => answer = .truth b ∧ R w s) R := by
    intro w s hws
    refine ((run_runsLike flags feature h w w rfl).trans (met w s hws)).mono ?_ ?_
    · rintro answer b w' s' ⟨_, _, ⟨answered, reported⟩, rfl, related⟩
      exact ⟨answered, hs.grounded.unseeing _ w' s' reported.flags related⟩
    · rintro w' s' ⟨_, reported, related⟩
      exact hs.grounded.unseeing _ w' s' reported.flags related
  have done := acted.bind (S := fun answer answer' w s => answer = answer' ∧ R w s)
    (f := Pure.pure) (g := fun b => Pure.pure (Answer.truth b)) fun _ _ => .pure fun _ _ h => h
  rwa [bind_pure, bind_assoc] at done

end FlagSet

end FeatureGates
