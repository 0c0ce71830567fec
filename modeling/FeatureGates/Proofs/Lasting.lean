import FeatureGates.Proofs.Keeping
import FeatureGates.Proofs.Usage

/-!
# What lasts while flags are used

Properties of the stores and caches of a world are touched by reads and
writes alone: checks and reports leave them as they are (`Lasting`). So
questions keep what the reads of the adapter keep (`FlagSet.keeps_ask`), an
action that demands something keeps what its writes keep, and a run of steps
keeps what each of its steps keeps (`FlagSet.after_keeps`).

None of this asks whether anything succeeds. A property that lasts is one
that can be relied on in the middle of an outage.
-/

namespace FeatureGates

variable {α β : Type} {I : World → Prop}

/-- A property of worlds that checks and reports do not touch. -/
structure Lasting (I : World → Prop) : Prop where
  surroundings {w : World} (s : Surroundings) : I w → I { w with surroundings := s }
  events {w : World} (events : List Event) : I w → I { w with events }

theorem Lasting.reported (h : Lasting I) {v w : World} (reported : World.Reported v w) (hv : I v) :
    I w := by
  have kept := h.events w.events (h.surroundings w.surroundings hv)
  obtain ⟨⟨stores, caches, groups, overlapping, -⟩, -⟩ := reported
  cases v
  cases w
  dsimp only at stores caches groups overlapping
  subst stores caches groups overlapping
  exact kept

/-! ## Runs -/

namespace Run

theorem keeps_ofExcept (result : Except Failure α) : Keeps I (Run.ofExcept result) := by
  cases result with
  | ok a => exact .pure a
  | error failure => exact .throw failure

theorem keeps_ofCheck (h : Lasting I) (check : Check α) : Keeps I (Run.ofCheck check) := by
  intro w hw
  unfold Run.ofCheck
  cases check.run w.surroundings with
  | ok a s => exact h.surroundings s hw
  | error failure s => exact h.surroundings s hw

theorem keeps_warn (h : Lasting I) (message : String) (fields : List (String × Value)) :
    Keeps I (Run.warn message fields) := keeps_ofCheck h _

end Run

/-- What is caught and reported instead of failing keeps what the run keeps. -/
theorem Adapter.keeps_safely (h : Lasting I) {run : Run α} (hr : Keeps I run)
    (caught : List Category) (operation name : String) (details : List (String × Value))
    (safe : α) : Keeps I (safely caught operation name details safe run) :=
  hr.tryCatch fun _ => .ite ((Run.keeps_warn h _ _).bind fun _ => .pure _) (.throw _)

/-! ## Observed operations -/

/-- A property of worlds, of a world in which something is observed. -/
def Within (I : World → Prop) (watched : Payload × World) : Prop := I watched.2

namespace Observed

theorem keeps_ofRun {run : Run α} (h : Keeps I run) : Keeps (Within I) (ofRun run) := by
  rintro ⟨payload, w⟩ hw
  unfold ofRun
  dsimp only
  cases ran : run w with
  | ok a w' => exact h.of_ok hw ran
  | error failure w' => exact h.of_error hw ran

theorem keeps_note (name : String) (value : Value) : Keeps (Within I) (note name value) :=
  .modify fun _ h => h

end Observed

namespace Instrumenter

theorem keeps_report (h : Lasting I) (instrumenter : Instrumenter) (name : String)
    (payload : Payload) (failure : Option Failure) (result : Value) :
    Keeps I (instrumenter.report name payload failure result) := by
  have logged (line : LogLine) : Keeps I (Run.ofCheck (Check.logLine line)) :=
    Run.keeps_ofCheck h _
  cases instrumenter with
  | none => exact .pure ()
  | memory => exact .modify fun w hw => h.events _ hw
  | logging =>
    unfold report logEnd
    cases failure with
    | none => exact .ite (.bind (.throw _) fun _ => logged _) (logged _)
    | some failure => exact .ite (.bind (.throw _) fun _ => logged _) (logged _)

/-- An observed operation keeps what the operation keeps. -/
theorem keeps_observe (h : Lasting I) (instrumenter : Instrumenter) (name : String)
    (payload : List (String × Value)) (shown : α → Value) {body : Observed α}
    (hb : Keeps (Within I) body) : Keeps I (instrumenter.observe name payload shown body) := by
  intro w hw
  have start : Within I (.ofRows payload, w) := hw
  unfold observe instrument
  dsimp only
  cases ran : body (.ofRows payload, w) with
  | ok value watched =>
    obtain ⟨after, w'⟩ := watched
    have kept : I w' := hb.of_ok start ran
    have reported := keeps_report h instrumenter name after Option.none (shown value) w' kept
    dsimp only
    cases made : instrumenter.report name after Option.none (shown value) w' with
    | ok _ w'' => rwa [made] at reported
    | error failure w'' => rwa [made] at reported
  | error failure watched =>
    obtain ⟨after, w'⟩ := watched
    have kept : I w' := hb.of_error start ran
    have reported := keeps_report h instrumenter name after (some failure) .null w' kept
    dsimp only
    cases made : instrumenter.report name after (some failure) .null w' with
    | ok _ w'' => rwa [made] at reported
    | error other w'' => rwa [made] at reported

end Instrumenter

/-! ## Actions -/

namespace FlagSet

variable {flags : FlagSet} {feature : String}

/-- A question keeps what reads keep. -/
theorem keeps_ask (h : Lasting I) (hr : ∀ {α : Type} (r : Read α), Keeps I (flags.adapter.read r))
    {action : Action} (asks : action.demand? flags.registry = none) :
    Keeps I (action.run flags feature) := by
  have values : Keeps I (flags.gateValues feature) := (hr _).bind fun _ => Run.keeps_ofExcept _
  have state : Keeps I (flags.state feature) := values.bind fun _ => .pure _
  have enabled : Keeps I (flags.enabledGates feature) := values.bind fun _ => .pure _
  have gates (open? : Bool) : Keeps I (Action.gatesOf flags feature open?) :=
    .ite enabled (enabled.bind fun _ => .pure _)
  cases action with
  | exist =>
    refine .map (Instrumenter.keeps_observe h _ _ _ _ ?_)
    exact (Observed.keeps_ofRun (hr _)).bind fun _ => .pure _
  | isEnabled thing =>
    refine .map (Instrumenter.keeps_observe h _ _ _ _ ?_)
    refine (Observed.keeps_ofRun values).bind fun _ => .bind ?_ fun _ => ?_
    · exact .ite (.pure _) ((Observed.keeps_note _ _).bind fun _ =>
        (Observed.keeps_ofRun (Run.keeps_ofExcept _)).bind fun _ => .pure _)
    · refine (Observed.keeps_ofRun (.get_bind fun _ => .pure _)).bind fun _ => ?_
      refine (Observed.keeps_ofRun (Run.keeps_ofCheck h _)).bind fun gate => ?_
      cases gate with
      | some gate => exact (Observed.keeps_note _ _).bind fun _ => .pure _
      | none => exact .pure _
  | state => exact state.map
  | hasState s => exact state.bind fun _ => .pure _
  | gateValues => exact values.map
  | gateValue gate => exact values.bind fun _ => .pure _
  | gatesThatAre open? => exact (gates open?).map
  | gateNamesThatAre open? => exact (gates open?).bind fun _ => .pure _
  | groupsThatAre open? => exact .map (values.bind fun _ => .get_bind fun _ => .pure _)
  | overview => exact .map (state.bind fun _ => enabled.bind fun _ => .pure _)
  | _ => cases asks

/-- An action that demands something keeps what meeting the demand keeps. -/
theorem keeps_run (h : Lasting I) {action : Action} {demand : Except Failure Demand}
    (demanded : action.demand? flags.registry = some demand)
    (hd : ∀ d, demand = .ok d → Keeps I (flags.meet feature d)) :
    Keeps I (action.run flags feature) := by
  intro w hw
  have met : Keeps I (Run.ofExcept demand >>= flags.meet feature) := by
    cases demand with
    | ok d => exact hd d rfl
    | error failure => exact .throw failure
  rcases (run_runsLike flags feature demanded w w rfl).elim with
    ⟨a, w', b, v, ran, quiet, -, reported⟩ | ⟨failure, w', v, ran, quiet, reported⟩
  · rw [ran]
    exact h.reported reported (met.of_ok hw quiet)
  · rw [ran]
    exact h.reported reported (met.of_error hw quiet)

/-! ## Steps -/

/-- A step keeps what reads keep, what its writes keep and what switching a cache keeps. -/
theorem keeps_step (h : Lasting I) (hr : ∀ {α : Type} (r : Read α), Keeps I (flags.adapter.read r))
    (hs : ∀ (cache : String) (active : Bool) (w : World), I w →
      I (w.putCache cache ((w.cache cache).setActive active))) {step : Step}
    (hd : ∀ feature d, step.demand? flags.registry = some (feature, .ok d) →
      Keeps I (flags.meet feature d)) (scopes : List Scope) : Keeps I (step.run flags scopes) := by
  cases step with
  | act feature action =>
    refine .bind ?_ fun _ => .pure _
    cases demanded : action.demand? flags.registry with
    | none => exact keeps_ask h hr demanded
    | some demand =>
      refine keeps_run h demanded fun d same => hd feature d ?_
      rw [Step.demand?, demanded, same]
      rfl
  | features => exact .bind ((hr _).bind fun _ => .pure _) fun _ => .pure _
  | preload asked => exact .bind ((hr _).bind fun _ => .pure _) fun _ => .pure _
  | preloadAll => exact .bind ((hr _).bind fun _ => .pure _) fun _ => .pure _
  | enter =>
    refine .bind ?_ fun _ => .pure _
    unfold Scope.enter
    split
    · rename_i cache _
      exact .get_bind fun _ => (Keeps.modify fun w hw => hs cache true w hw).bind fun _ => .pure _
    · exact .pure _
  | leave =>
    cases scopes with
    | nil => exact .pure _
    | cons scope outer =>
      refine .bind ?_ fun _ => .pure _
      unfold Scope.leave
      split
      · rename_i cache _
        exact .modify fun w hw => hs cache scope.wasActive w hw
      · exact .pure _

/-- What each step keeps is so after a run of them. -/
theorem after_keeps {steps : List Step}
    (h : ∀ step ∈ steps, ∀ scopes, Keeps I (step.run flags scopes)) (scopes : List Scope)
    {w : World} (hw : I w) : I (flags.after steps scopes w).2 := by
  induction steps generalizing scopes w with
  | nil => exact hw
  | cons step rest ih =>
    have later := fun step mem => h step (List.mem_cons_of_mem _ mem)
    have now := h step List.mem_cons_self scopes
    unfold after
    cases ran : step.run flags scopes w with
    | ok reply w' => exact ih later reply.2 (now.of_ok hw ran)
    | error failure w' => exact ih later scopes (now.of_error hw ran)

end FlagSet

end FeatureGates
