import FeatureGates.Proofs.Reporting

/-!
# The chronicle of a run

What a recorder has at the end of a run is a chronicle of it: a chapter for
each step, in order. The chapter of a step tells the calls to the adapter
that the step made and then, if the step is an action that is observed and
was not refused for its arguments, the action itself (`Step.Told`). Beside
that, the recorder makes no difference (`FlagSet.recorded_faithfully`).

Which calls an action makes is said by its demand or its question
(`Action.calls`), how they end by the adapter, in the world that they are
made in. The chapters are found step by step (`FlagSet.Watches.step`) and
put together by an induction over the steps (`FlagSet.Watches.chapters`).
-/

namespace FeatureGates

open Recording

/-! ## What is told of an action -/

namespace Action

/-- The name that an action is observed under, if it is observed and not refused. -/
def observed? (registry : Registry) (action : Action) : Option String :=
  match action.demand? registry with
  | some (.ok demand) => some demand.operation
  | some (.error _) => none
  | none =>
    match action with
    | .exist => some "exist?"
    | .isEnabled _ => some "enabled?"
    | _ => none

/-- The calls to the adapter that an action makes. -/
def calls (flags : FlagSet) (feature : String) (action : Action) (w : World) : List Call :=
  match action.demand? flags.registry with
  | some (.ok demand) => flags.adapter.writeCalls feature demand.writes w
  | some (.error _) => []
  | none =>
    match action with
    | .exist => [flags.adapter.readCall .features w]
    | .overview => flags.adapter.readCall (.get feature) w ::
      match flags.gateValues feature w with
      | .ok _ w' => [flags.adapter.readCall (.get feature) w']
      | .error _ _ => []
    | _ => [flags.adapter.readCall (.get feature) w]

end Action

/-- What the event of an action on a feature says of it. -/
structure Event.Reports (event : Event) (flags : FlagSet) (feature : String) (action : Action)
    (operation : String) (w : World) : Prop where
  name : event.name = featureOperation
  featureName : event.payload.find? "feature_name" = some (.text feature)
  operationName : event.payload.find? "operation" = some (.text operation)
  ending : match action.run flags feature w with
    | .ok answer _ => event.failure = none ∧ ∃ b, answer = .truth b ∧ event.result = .bool b
    | .error failure _ => event.failure = some failure ∧ event.result = .null
  written {demand : Demand} : action.demand? flags.registry = some (.ok demand) →
    ∀ row ∈ demand.notes, event.payload.find? row.1 = some row.2
  opened {thing : Value} : action = .isEnabled thing → event.result = .bool true →
    ∃ gate, event.payload.find? "gate_name" = some (.text gate.key) ∧
      flags.Opens feature thing w gate
  shut {thing : Value} : action = .isEnabled thing → event.result ≠ .bool true →
    event.payload.find? "gate_name" = none

/-- What is told of an action: its calls to the adapter, and then the action itself if it is
observed and not refused. -/
def Action.Told (flags : FlagSet) (feature : String) (action : Action) (w : World)
    (chapter : List Event) : Prop :=
  ∃ own, chapter = (action.calls flags feature w).map (·.event flags.adapter.name) ++ own ∧
    match action.observed? flags.registry with
    | some operation => ∃ event : Event, own = [event] ∧
      event.Reports flags feature action operation w
    | none => own = []

namespace Action

variable {flags : FlagSet} {feature : String} {action : Action} {w : World} {calls : List Call}

/-- Of an action that is not observed, or refused, nothing is told but the calls. -/
theorem told_of_unobserved (unobserved : action.observed? flags.registry = none)
    (made : action.calls flags feature w = calls) :
    action.Told flags feature w (calls.map (·.event flags.adapter.name)) := by
  refine ⟨[], ?_, ?_⟩
  · rw [made, List.append_nil]
  · rw [unobserved]

theorem told_of_observed {operation : String} {event : Event}
    (observed : action.observed? flags.registry = some operation)
    (made : action.calls flags feature w = calls)
    (reports : event.Reports flags feature action operation w) :
    action.Told flags feature w (calls.map (·.event flags.adapter.name) ++ [event]) := by
  refine ⟨[event], ?_, ?_⟩
  · rw [made]
  · rw [observed]
    exact ⟨event, rfl, reports⟩

theorem observed?_of_demand {demand : Except Failure Demand} {registry : Registry}
    (demanded : action.demand? registry = some demand) :
    action.observed? registry = demand.toOption.map Demand.operation := by
  unfold observed?
  rw [demanded]
  cases demand <;> rfl

theorem calls_of_refused {failure : Failure}
    (demanded : action.demand? flags.registry = some (.error failure)) :
    action.calls flags feature w = [] := by
  unfold calls
  rw [demanded]

theorem calls_of_accepted {demand : Demand}
    (demanded : action.demand? flags.registry = some (.ok demand)) :
    action.calls flags feature w = flags.adapter.writeCalls feature demand.writes w := by
  unfold calls
  rw [demanded]

end Action

namespace FlagSet

variable {flags watched quiet : FlagSet} {feature : String}

/-- The event of a demand that is met says what was demanded, of which feature and how it ended. -/
theorem reports_demand (unwatched : flags.instrumenter = .none) {action : Action}
    {demand : Demand} (demanded : action.demand? flags.registry = some (.ok demand)) (w : World) :
    (Event.own feature demand.operation (flags.meetBody feature demand) w).Reports
      flags feature action demand.operation w := by
  have kept {name : String} (gate : name ≠ "gate_name") (thing : name ≠ "thing")
      (noted? : Option Value) :
      Keeps (Observed.Notes name noted?) (flags.meetBody feature demand) :=
    (Observed.notes_noteAll (demand.ne_of_mem_notes gate thing)).bind fun _ =>
      Observed.notes_ofRun _
  constructor
  case name => exact Event.name_own ..
  case featureName => exact Event.feature_own _ _ _ (kept (by decide) (by decide))
  case operationName => exact Event.operation_own _ _ _ (kept (by decide) (by decide))
  case ending => exact Event.ending_own _ _ _ unwatched (run_demand demanded)
  case written =>
    intro other again row mem
    obtain rfl : demand = other := by
      rw [demanded] at again
      cases again
      rfl
    unfold Event.own meetBody
    rw [bind_apply, Observed.noteAll_apply]
    exact Event.find?_ofEnd (Observed.notes_ofRun _) (demand.find?_notes _ row mem)
  case opened =>
    rintro thing rfl
    cases demanded
  case shut =>
    rintro thing rfl
    cases demanded

/-- What is told of an action that demands something. -/
theorem Watches.demand (h : watched.Watches quiet) (feature : String) {action : Action}
    {demand : Except Failure Demand} (demanded : action.demand? quiet.registry = some demand) :
    ∃ story, Tells (action.run watched feature) (action.run quiet feature) story ∧
      ∀ w, action.Told quiet feature w (story w) := by
  rw [run_demand demanded, run_demand (h.registry ▸ demanded)]
  cases demand with
  | error failure =>
    exact ⟨fun _ => [], (Tells.throw failure).map Answer.truth, fun _ =>
      Action.told_of_unobserved (Action.observed?_of_demand demanded)
        (Action.calls_of_refused demanded)⟩
  | ok demand =>
    exact ⟨_, (h.meetObserved feature demand).map Answer.truth, fun w =>
      Action.told_of_observed (Action.observed?_of_demand demanded)
        (Action.calls_of_accepted demanded) (reports_demand h.unwatched demanded w)⟩

theorem reports_exist (unwatched : flags.instrumenter = .none) (feature : String) (w : World) :
    (Event.own feature "exist?" (flags.existBody feature) w).Reports
      flags feature .exist "exist?" w := by
  have kept (name : String) (noted? : Option Value) :
      Keeps (Observed.Notes name noted?) (flags.existBody feature) :=
    (Observed.notes_ofRun _).bind fun _ => .pure _
  constructor
  case name => exact Event.name_own ..
  case featureName => exact Event.feature_own _ _ _ (kept _)
  case operationName => exact Event.operation_own _ _ _ (kept _)
  case ending => exact Event.ending_own _ _ _ unwatched rfl
  case written =>
    intro demand demanded
    cases demanded
  case opened =>
    intro thing same
    cases same
  case shut =>
    intro thing same
    cases same

theorem reports_isEnabled (unwatched : flags.instrumenter = .none) (feature : String)
    (thing : Value) (w : World) :
    (Event.own feature "enabled?" (flags.isEnabledBody feature thing) w).Reports
      flags feature (.isEnabled thing) "enabled?" w := by
  obtain ⟨asked, noted, ends⟩ :=
    flags.isEnabledBody_ends feature thing (ownPayload feature "enabled?") w
  have unnamed : asked.find? "gate_name" = none := by
    have start : (ownPayload feature "enabled?").find? "gate_name" = none := by
      rw [ownPayload, Table.find?_ofRows]
      rfl
    rcases noted with rfl | rfl
    · exact start
    · rw [Table.find?_put, if_neg (by decide)]
      exact start
  constructor
  case name => exact Event.name_own ..
  case featureName =>
    exact Event.feature_own _ _ _ (flags.notes_isEnabledBody feature thing (by decide))
  case operationName =>
    exact Event.operation_own _ _ _ (flags.notes_isEnabledBody feature thing (by decide))
  case ending => exact Event.ending_own _ _ _ unwatched rfl
  case written =>
    intro demand demanded
    cases demanded
  case opened =>
    rintro other same isTrue
    cases same
    unfold Event.own at isTrue ⊢
    rcases ends with ⟨gate, w', ran, opens⟩ | ⟨w', ran⟩ | ⟨failure, w', ran⟩
    · rw [ran]
      refine ⟨gate, ?_, opens⟩
      show (asked.put "gate_name" _).find? "gate_name" = _
      rw [Table.find?_put, if_pos rfl]
    · rw [ran] at isTrue
      cases isTrue
    · rw [ran] at isTrue
      cases isTrue
  case shut =>
    rintro other same isFalse
    unfold Event.own at isFalse ⊢
    rcases ends with ⟨gate, w', ran, -⟩ | ⟨w', ran⟩ | ⟨failure, w', ran⟩
    · rw [ran] at isFalse
      exact absurd rfl isFalse
    · rw [ran]
      exact unnamed
    · rw [ran]
      exact unnamed

/-- A feature at a glance is read twice, unless its values are not to be had or typed. -/
theorem Watches.overview (h : watched.Watches quiet) (feature : String) :
    Tells (watched.overview feature) (quiet.overview feature) fun w =>
      (Action.overview.calls quiet feature w).map (·.event quiet.adapter.name) := by
  have again (state : FeatureState) : Tells
      (do return ⟨feature, state, ← watched.enabledGates feature, watched.adapter.name⟩ :
        Run Overview)
      (do return ⟨feature, state, ← quiet.enabledGates feature, quiet.adapter.name⟩)
      (quiet.asking feature) := by
    rw [h.name]
    exact (h.enabledGates feature).bind_uneventful fun _ => Tells.pure _
  refine ((h.state feature).bind again).mono fun w => ?_
  unfold sequel FlagSet.state
  rw [bind_apply]
  have made : Action.overview.calls quiet feature w =
      quiet.adapter.readCall (.get feature) w :: match quiet.gateValues feature w with
        | .ok _ w' => [quiet.adapter.readCall (.get feature) w']
        | .error _ _ => [] := rfl
  rw [made]
  cases quiet.gateValues feature w <;> rfl

/-- What is told of any action. -/
theorem Watches.act (h : watched.Watches quiet) (feature : String) (action : Action) :
    ∃ story, Tells (action.run watched feature) (action.run quiet feature) story ∧
      ∀ w, action.Told quiet feature w (story w) := by
  cases demanded : action.demand? quiet.registry with
  | some demand => exact h.demand feature demanded
  | none =>
    cases action with
    | exist =>
      exact ⟨_, (h.exist feature).map _, fun w =>
        Action.told_of_observed rfl rfl (reports_exist h.unwatched feature w)⟩
    | isEnabled thing =>
      exact ⟨_, (h.isEnabled feature thing).map _, fun w =>
        Action.told_of_observed rfl rfl (reports_isEnabled h.unwatched feature thing w)⟩
    | state => exact ⟨_, (h.state feature).map _, fun _ => Action.told_of_unobserved rfl rfl⟩
    | hasState state =>
      exact ⟨_, (h.state feature).bind_uneventful fun _ => Tells.pure _, fun _ =>
        Action.told_of_unobserved rfl rfl⟩
    | gateValues =>
      exact ⟨_, (h.gateValues feature).map _, fun _ => Action.told_of_unobserved rfl rfl⟩
    | gateValue gate =>
      exact ⟨_, (h.gateValues feature).bind_uneventful fun _ => Tells.pure _, fun _ =>
        Action.told_of_unobserved rfl rfl⟩
    | gatesThatAre enabled =>
      exact ⟨_, (h.gatesOf feature enabled).map _, fun _ => Action.told_of_unobserved rfl rfl⟩
    | gateNamesThatAre enabled =>
      exact ⟨_, (h.gatesOf feature enabled).bind_uneventful fun _ => Tells.pure _, fun _ =>
        Action.told_of_unobserved rfl rfl⟩
    | groupsThatAre enabled =>
      exact ⟨_, (h.groupsThatAre feature enabled).map _, fun _ =>
        Action.told_of_unobserved rfl rfl⟩
    | overview =>
      exact ⟨_, (h.overview feature).map _, fun _ => Action.told_of_unobserved rfl rfl⟩
    | _ => cases demanded

end FlagSet

/-! ## What is told of a run -/

/-- What is told of a step that is taken from a world. -/
def Step.Told (flags : FlagSet) (step : Step) (w : World) (chapter : List Event) : Prop :=
  match step with
  | .act feature action => action.Told flags feature w chapter
  | .features => chapter = [(flags.adapter.readCall .features w).event flags.adapter.name]
  | .preload asked =>
    chapter = [(flags.adapter.readCall (.getMulti asked) w).event flags.adapter.name]
  | .preloadAll => chapter = [(flags.adapter.readCall .getAll w).event flags.adapter.name]
  | .enter => chapter = []
  | .leave => chapter = []

/-- The scopes and the world that a step leads to, whether it succeeds or fails. -/
def Step.onward (flags : FlagSet) (step : Step) (scopes : List Scope) (w : World) :
    List Scope × World :=
  match step.run flags scopes w with
  | .ok (_, scopes) w => (scopes, w)
  | .error _ w => (scopes, w)

theorem Step.onward_of_tells {watched quiet : FlagSet} {step : Step} {scopes : List Scope}
    {story : World → List Event}
    (tells : Tells (step.run watched scopes) (step.run quiet scopes) story) (w : World)
    (events : List Event) :
    step.onward watched scopes (withEvents w events) =
      ((step.onward quiet scopes w).1,
        withEvents (step.onward quiet scopes w).2 (events ++ story w)) := by
  unfold onward
  rw [tells]
  cases step.run quiet scopes w <;> rfl

namespace FlagSet

/-- Chapters for steps: each tells of its step, taken from where the ones before it lead. -/
inductive Chapters (flags : FlagSet) :
    List Step → List Scope → World → List (List Event) → Prop
  | nil (scopes : List Scope) (w : World) : Chapters flags [] scopes w []
  | cons {step : Step} {rest : List Step} {scopes : List Scope} {w : World}
      {chapter : List Event} {chapters : List (List Event)}
      (told : step.Told flags w chapter)
      (others : Chapters flags rest (step.onward flags scopes w).1
        (step.onward flags scopes w).2 chapters) :
      Chapters flags (step :: rest) scopes w (chapter :: chapters)

theorem after_cons (flags : FlagSet) (step : Step) (rest : List Step) (scopes : List Scope)
    (w : World) :
    flags.after (step :: rest) scopes w =
      flags.after rest (step.onward flags scopes w).1 (step.onward flags scopes w).2 := by
  rw [after]
  unfold Step.onward
  cases step.run flags scopes w <;> rfl

namespace Chapters

variable {flags : FlagSet} {steps : List Step} {scopes : List Scope} {w : World}
  {chapters : List (List Event)}

theorem length_eq (h : flags.Chapters steps scopes w chapters) :
    chapters.length = steps.length := by
  induction h with
  | nil => rfl
  | cons told others ih => exact congrArg (· + 1) ih

theorem told (h : flags.Chapters steps scopes w chapters) {i : Nat} {step : Step}
    {chapter : List Event} (taken : steps[i]? = some step) (read : chapters[i]? = some chapter) :
    step.Told flags (flags.after (steps.take i) scopes w).2 chapter := by
  induction h generalizing i with
  | nil => cases taken
  | cons first others ih =>
    cases i with
    | zero =>
      cases taken
      cases read
      exact first
    | succ i =>
      rw [List.take_succ_cons, after_cons]
      exact ih taken read

end Chapters

variable {watched quiet : FlagSet}

/-- What is told of any step. -/
theorem Watches.step (h : watched.Watches quiet) (scopes : List Scope) (step : Step) :
    ∃ story, Tells (step.run watched scopes) (step.run quiet scopes) story ∧
      ∀ w, step.Told quiet w (story w) := by
  cases step with
  | act feature action =>
    obtain ⟨story, tells, told⟩ := h.act feature action
    exact ⟨story, tells.bind_uneventful fun _ => Tells.pure _, told⟩
  | features =>
    refine ⟨_, Tells.bind_uneventful ?_ fun _ => Tells.pure _, fun _ => rfl⟩
    exact (h.read .features).bind_uneventful fun _ => Tells.pure _
  | preload asked =>
    refine ⟨_, Tells.bind_uneventful ?_ fun _ => Tells.pure _, fun _ => rfl⟩
    exact (h.read (.getMulti asked)).bind_uneventful fun _ => Tells.pure _
  | preloadAll =>
    refine ⟨_, Tells.bind_uneventful ?_ fun _ => Tells.pure _, fun _ => rfl⟩
    exact (h.read .getAll).bind_uneventful fun _ => Tells.pure _
  | enter => exact ⟨_, h.enter.bind_uneventful fun _ => Tells.pure _, fun _ => rfl⟩
  | leave =>
    cases scopes with
    | nil => exact ⟨_, Tells.pure _, fun _ => rfl⟩
    | cons scope outer =>
      exact ⟨_, (uneventful_leave scope).bind_uneventful fun _ => Tells.pure _, fun _ => rfl⟩

/-- A run that is watched has the trace of the quiet one, whatever events there are. -/
theorem Watches.trace_eq (h : watched.Watches quiet) (store : String) (steps : List Step)
    (scopes : List Scope) (w : World) (events : List Event) :
    watched.trace store scopes steps (withEvents w events) = quiet.trace store scopes steps w := by
  induction steps generalizing scopes w events with
  | nil => rfl
  | cons step rest ih =>
    obtain ⟨story, tells, -⟩ := h.step scopes step
    unfold trace
    rw [tells]
    cases step.run quiet scopes w with
    | ok reply w' => exact congrArg _ (ih reply.2 w' (events ++ story w))
    | error failure w' => exact congrArg _ (ih scopes w' (events ++ story w))

/-- A run that is watched leads where the quiet one does, with its chapters recorded besides. The
induction is over the steps; what carries it is that the worlds of the two differ by events. -/
theorem Watches.chapters (h : watched.Watches quiet) (steps : List Step) (scopes : List Scope)
    (w : World) (events : List Event) :
    ∃ chapters, quiet.Chapters steps scopes w chapters ∧
      watched.after steps scopes (withEvents w events) =
        ((quiet.after steps scopes w).1,
          withEvents (quiet.after steps scopes w).2 (events ++ chapters.flatten)) := by
  induction steps generalizing scopes w events with
  | nil =>
    refine ⟨[], .nil scopes w, ?_⟩
    rw [List.flatten_nil, List.append_nil]
    rfl
  | cons step rest ih =>
    obtain ⟨story, tells, told⟩ := h.step scopes step
    obtain ⟨chapters, others, ends⟩ := ih (step.onward quiet scopes w).1
      (step.onward quiet scopes w).2 (events ++ story w)
    refine ⟨story w :: chapters, .cons (told w) others, ?_⟩
    rw [after_cons, after_cons, Step.onward_of_tells tells, ends, List.flatten_cons,
      List.append_assoc]

/-- Recording is faithful. Whatever steps are taken behind a recording adapter over a store in
memory, whose calls may be struck at any time, they end as they do without a recorder, and leave
the same store and surroundings. What is recorded is a chapter for each step: an event for each of
its calls, with its answer or failure, and then one for the action itself, if it is observed and
not refused, which says how it ended and, of a feature that is enabled, by which gate. -/
theorem recorded_faithfully (store name : String) (registry : Registry) (meaning : Meaning)
    (steps : List Step) (scopes : List Scope) (w : World) :
    let recorded := watchedBy .memory (.memory store name) registry meaning
    let quiet := watchedBy .none (.memory store name) registry meaning
    recorded.trace store scopes steps w = quiet.trace store scopes steps w ∧
    ∃ chapters : List (List Event), chapters.length = steps.length ∧
      recorded.after steps scopes w = ((quiet.after steps scopes w).1,
        { (quiet.after steps scopes w).2 with events := w.events ++ chapters.flatten }) ∧
      ∀ (i : Nat) (step : Step) (chapter : List Event), steps[i]? = some step →
        chapters[i]? = some chapter →
        step.Told quiet (quiet.after (steps.take i) scopes w).2 chapter := by
  intro recorded quiet
  have watches : recorded.Watches quiet :=
    watches_watchedBy (Adapter.uneventful_memory store name) registry meaning
  obtain ⟨chapters, told, ends⟩ := watches.chapters steps scopes w w.events
  exact ⟨watches.trace_eq store steps scopes w w.events, chapters, told.length_eq, ends,
    fun i step chapter taken read => told.told taken read⟩

end FlagSet

end FeatureGates
