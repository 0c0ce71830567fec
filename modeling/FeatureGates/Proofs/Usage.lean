import FeatureGates.Proofs.Memoizing
import FeatureGates.Proofs.Questions
import Mathlib.Data.List.Forall2

/-!
# Using flags step by step

A step is an action on a feature, a read of all features or of several at
once, or the entering or leaving of a scope of memoizing. Scopes are
properly nested: leaving leaves the innermost one that is open.

What a step does is told by what it demands: if that is refused, nothing
(`FlagSet.refused_ends`); if it can be met, what meeting it does
(`FlagSet.demand_ends`); and if it demands nothing, it ends like the
machine's step if its read does (`FlagSet.reading_ends`).

A trace has a moment for every step: how the step ended, what the store
held then, and how many draws had been made. The trace of a flag set whose
adapter serves is like the trace of the reference machine, for which scopes
are nothing (`FlagSet.trace_alike`). It is an induction over the steps
(`FlagSet.trace_like`); the relation of worlds and machine states that the
adapter serves in is the invariant. Like traces are the same but for the
order in which features are listed, and the very same if the adapter lists
them as the machine does (`FlagSet.trace_same`). If it does so only while
nothing is memoized, they are the same where no scope is open
(`FlagSet.trace_outside`): for this the invariant follows the open scopes
(`Nested`).
-/

namespace FeatureGates

inductive Step where
  | act (feature : String) (action : Action)
  | features
  | preload (features : List String)
  | preloadAll
  | enter
  | leave

inductive Reply where
  | answer (answer : Answer)
  | names (names : List String)
  /-- The names of all features, as they are listed. -/
  | listing (names : List String)
  | done

/-- Replies that are the same, but for the order of a listing: a store lists features as they were
added, and a cache has them in a set. -/
def Reply.Alike : Reply → Reply → Prop
  | .listing a, .listing b => a.Perm b
  | a, b => a = b

/-- What is alike and no listing is the same. -/
theorem Reply.Alike.eq {a b : Reply} (h : a.Alike b) (other : ∀ names, b ≠ .listing names) :
    a = b := by
  cases b with
  | listing names => exact absurd rfl (other names)
  | _ => cases a <;> exact h

/-- A step has ended. -/
structure Moment where
  outcome : Except Failure Reply
  records : Records
  drawn : Nat

/-- The same failure, or replies that are related, with the same records and draws. -/
structure Moment.Like (C : Reply → Reply → Prop) (a b : Moment) : Prop where
  outcome : match a.outcome, b.outcome with
    | .ok reply, .ok reply' => C reply reply'
    | .error failure, .error failure' => failure = failure'
    | _, _ => False
  records : a.records = b.records
  drawn : a.drawn = b.drawn

abbrev Moment.Alike : Moment → Moment → Prop := Moment.Like Reply.Alike

theorem Moment.Like.eq {a b : Moment} (h : Moment.Like Eq a b) : a = b := by
  obtain ⟨outcome, records, drawn⟩ := a
  obtain ⟨outcome', records', drawn'⟩ := b
  obtain ⟨same, rfl, rfl⟩ := h
  cases outcome <;> cases outcome' <;> cases same <;> rfl

/-! ## Traces -/

/-- Takes a step while some scopes are open; the scopes that are open then. -/
def Step.run (flags : FlagSet) (scopes : List Scope) : Step → Run (Reply × List Scope)
  | .act feature action => do return (.answer (← action.run flags feature), scopes)
  | .features => do return (.names (← flags.features), scopes)
  | .preload asked => do return (.names (← flags.preload asked), scopes)
  | .preloadAll => do return (.listing (← flags.preloadAll), scopes)
  | .enter => do return (.done, (← Scope.enter flags.adapter) :: scopes)
  | .leave =>
    match scopes with
    | scope :: outer => do
      scope.leave
      return (.done, outer)
    | [] => return (.done, [])

namespace Step

/-- What a step demands of which feature, if it demands anything. -/
def demand? (registry : Registry) : Step → Option (String × Except Failure Demand)
  | .act feature action => (action.demand? registry).map (feature, ·)
  | _ => none

/-- What a step demands, if anything, is not refused for its arguments, and names its member. -/
def IsAccepted (registry : Registry) (step : Step) : Prop :=
  ∀ feature demand, step.demand? registry = some (feature, demand) →
    ∃ d, demand = .ok d ∧ d.NamesMember

/-- The step opens or closes a scope. -/
def switches : Step → Bool
  | .enter => true
  | .leave => true
  | _ => false

/-- The name of the read that a step makes which is no demand. -/
def readName : Step → String
  | .act _ action => action.readName
  | .features => Read.features.name
  | .preload asked => (Read.getMulti asked).name
  | .preloadAll => Read.getAll.name
  | _ => ""

end Step

/-- What becomes of one store while steps are taken one after another. -/
def FlagSet.trace (flags : FlagSet) (store : String) :
    List Scope → List Step → World → List Moment
  | _, [], _ => []
  | scopes, step :: rest, world =>
    match step.run flags scopes world with
    | .ok (reply, scopes) world =>
      ⟨.ok reply, (world.store store).records, world.surroundings.drawn⟩ ::
        trace flags store scopes rest world
    | .error failure world =>
      ⟨.error failure, (world.store store).records, world.surroundings.drawn⟩ ::
        trace flags store scopes rest world

/-- Where steps lead that are taken one after another, whether they succeed or fail: the scopes
that are open then, and the world. -/
def FlagSet.after (flags : FlagSet) : List Step → List Scope → World → List Scope × World
  | [], scopes, world => (scopes, world)
  | step :: rest, scopes, world =>
    match step.run flags scopes world with
    | .ok (_, scopes) world => after flags rest scopes world
    | .error _ world => after flags rest scopes world

namespace Reference

/-- A step of the machine; there is nothing to memoize. -/
def step (reference : Reference) : Step → Machine Reply
  | .act feature action => .answer <$> reference.run feature action
  | .features => do return .names (← reference.rules.read .features).names
  | .preload asked => do
    let _ ← reference.rules.read (.getMulti asked)
    return .names asked
  | .preloadAll => do return .listing ((← reference.rules.read .getAll).rows.map (·.1))
  | .enter => return .done
  | .leave => return .done

def trace (reference : Reference) : List Step → ReferenceState → List Moment
  | [], _ => []
  | step :: rest, state =>
    match reference.step step state with
    | .ok reply state =>
      ⟨.ok reply, state.records, state.surroundings.drawn⟩ :: trace reference rest state
    | .error failure state =>
      ⟨.error failure, state.records, state.surroundings.drawn⟩ :: trace reference rest state

end Reference

/-! ## A step -/

/-- What the reference machine makes of a step that demands something. -/
theorem Reference.step_lenient (reference : Reference) (lenient : reference.rules = .lenient)
    {step : Step} {feature : String} {demand : Demand}
    (demanded : step.demand? reference.registry = some (feature, .ok demand))
    (s : ReferenceState) :
    reference.step step s = match demand.filing feature s.records with
      | .ok made records => .ok (.answer (.truth made)) { s with records }
      | .error failure records => .error failure { s with records } := by
  cases step with
  | act asked action =>
    obtain ⟨_, own, same⟩ := Option.map_eq_some_iff.1 demanded
    cases same
    have met := Rules.carryOut_lenient feature demand
    simp only [Reference.step, Reference.run, own, lenient, met, Machine.ofExcept, map_eq_pure_bind,
      pure_bind, bind_apply, Machine.file]
    have ran : (demand.filing feature).run s.records = demand.filing feature s.records := rfl
    rw [ran]
    cases demand.filing feature s.records <;> rfl
  | _ => cases demanded

/-- A relation that does not look at whether caches are on. -/
def Switchable (R : World → ReferenceState → Prop) : Prop :=
  ∀ ⦃w s⦄ (cache : String) (active : Bool), R w s →
    R (w.putCache cache ((w.cache cache).setActive active)) s

/-- What a step needs of a relation beside that an adapter serves in it. -/
structure Steady (store : String) (R : World → ReferenceState → Prop) : Prop where
  records {w : World} {s : ReferenceState} : R w s → (w.store store).records = s.records
  oblivious {w : World} {s : ReferenceState} : R w s → s.groups.Oblivious
  switch : Switchable R

/-- A relation for where no scope is open, beside one for anywhere: in it the cache is off, and it
holds again when the cache is switched off. -/
structure Resting (adapter : Adapter) (cache : String) (Off R : World → ReferenceState → Prop) :
    Prop where
  own : adapter.cache? = some cache
  anywhere {w : World} {s : ReferenceState} : Off w s → R w s
  off {w : World} {s : ReferenceState} : Off w s → (w.cache cache).active = false
  left {w : World} {s : ReferenceState} :
    R w s → Off (w.putCache cache ((w.cache cache).setActive false)) s

/-- The relation that holds while some scopes are open, the outermost of which found the cache
off. -/
def Nested (cache : String) (Off R : World → ReferenceState → Prop) (w : World)
    (s : ReferenceState) : List Scope → Prop
  | [] => Off w s
  | scope :: outer => (scope :: outer).getLast? = some ⟨some cache, false⟩ ∧ R w s

/-- Only features that are loaded all at once are listed. -/
theorem Reference.step_unlisted (reference : Reference) {step : Step} (other : step ≠ .preloadAll)
    {s s' : ReferenceState} {reply : Reply} (ran : reference.step step s = .ok reply s')
    (names : List String) : reply ≠ .listing names := by
  cases step with
  | act feature action =>
    have spec : reference.step (.act feature action) =
        (reference.run feature action >>= fun answer => pure (.answer answer)) :=
      map_eq_pure_bind ..
    obtain ⟨_, -, rfl⟩ := exists_of_bind_pure (spec ▸ ran)
    exact fun same => nomatch same
  | features =>
    obtain ⟨_, -, rfl⟩ := exists_of_bind_pure (f := fun all : NameSet => Reply.names all.names) ran
    exact fun same => nomatch same
  | preload asked =>
    obtain ⟨_, -, rfl⟩ := exists_of_bind_pure (f := fun _ => Reply.names asked) ran
    exact fun same => nomatch same
  | preloadAll => exact absurd rfl other
  | enter => exact (EStateM.Result.ok.inj ran).1 ▸ fun same => nomatch same
  | leave => exact (EStateM.Result.ok.inj ran).1 ▸ fun same => nomatch same

/-- A step that neither opens nor closes a scope leaves them as they are. -/
theorem Step.scopes_of_run {flags : FlagSet} {step : Step} (still : step.switches = false)
    {scopes inside : List Scope} {reply : Reply} {w w' : World}
    (ran : step.run flags scopes w = .ok (reply, inside) w') : inside = scopes := by
  have kept {α : Type} {run : Run α} (f : α → Reply)
      (ran : (do return (f (← run), scopes) : Run (Reply × List Scope)) w =
        .ok (reply, inside) w') : inside = scopes := by
    obtain ⟨_, -, same⟩ := exists_of_bind_pure ran
    exact (congrArg Prod.snd same).symm
  cases step with
  | act feature action => exact kept .answer ran
  | features => exact kept .names ran
  | preload asked => exact kept .names ran
  | preloadAll => exact kept .listing ran
  | enter => cases still
  | leave => cases still

namespace FlagSet

variable {flags : FlagSet} {rules : Rules} {store : String} {P R : World → ReferenceState → Prop}

/-- Where a step ends, beside in which scopes, by how replies are related. -/
abbrev StepEndsBy (C : Reply → Reply → Prop) (R : World → ReferenceState → Prop) :=
  Ends (ε := Failure) (fun (a : Reply × List Scope) (b : Reply) w s => C a.1 b ∧ R w s) R

abbrev StepEnds (R : World → ReferenceState → Prop) := StepEndsBy Reply.Alike R

/-- A read that a step makes, and what the step makes of its answer. -/
theorem read_ends {α : Type} {r : Read α} (hr : Responds flags.adapter rules P R r) {f : α → Reply}
    (hf : ∀ a b, r.Alike a b → (f a).Alike (f b)) (scopes : List Scope) {w : World}
    {s : ReferenceState} (h : P w s) :
    StepEnds R ((do return (f (← flags.adapter.read r), scopes) : Run (Reply × List Scope)) w)
      ((do return f (← rules.read r) : Machine Reply) s) := by
  have both := MatchesFrom.bind hr (C := fun (a : Reply × List Scope) b => a.1.Alike b)
    (f := fun a => pure (f a, scopes)) (g := fun b => pure (f b))
    fun a b alike => .pure (hf a b alike)
  exact both w s h

/-- An action and the reply that a step makes of its answer. -/
theorem act_ends {feature : String} {action : Action}
    (h : MatchesFrom P R Eq (action.run flags feature)
      ((flags.reference rules).run feature action)) (scopes : List Scope) {w : World}
    {s : ReferenceState} (hp : P w s) :
    StepEnds R ((Step.act feature action).run flags scopes w)
      ((flags.reference rules).step (.act feature action) s) := by
  have acted := h.bind (C := fun (a : Reply × List Scope) b => a.1.Alike b)
    (f := fun answer => pure (.answer answer, scopes)) (g := fun answer => pure (.answer answer))
    fun a b same => .pure (congrArg Reply.answer same)
  have spec : (flags.reference rules).step (.act feature action) =
      ((flags.reference rules).run feature action >>= fun answer => pure (.answer answer)) :=
    map_eq_pure_bind ..
  rw [spec]
  exact acted w s hp

/-- A step that demands something ends as meeting the demand does. -/
theorem demand_ends (flags : FlagSet) {step : Step} {feature : String} {demand : Demand}
    (demanded : step.demand? flags.registry = some (feature, .ok demand)) (scopes : List Scope)
    (w : World) :
    Ends (fun reply made w' v => reply = (Reply.answer (.truth made), scopes) ∧
        World.Reported v w')
      (fun w' v => World.Reported v w')
      (step.run flags scopes w) (flags.meet feature demand w) := by
  cases step with
  | act asked action =>
    obtain ⟨_, own, same⟩ := Option.map_eq_some_iff.1 demanded
    cases same
    have acted := Refines.bind (run_runsLike flags feature own) (f := fun answer =>
        Pure.pure (Reply.answer answer, scopes)) (g := Pure.pure)
      (S := fun reply made w' v => reply = (Reply.answer (.truth made), scopes) ∧
        World.Reported v w')
      fun answer made => .pure fun w' v ends => ⟨ends.1 ▸ rfl, ends.2⟩
    rw [bind_pure] at acted
    exact acted w w rfl
  | _ => cases demanded

/-- What is refused for its arguments leaves things as they are. -/
theorem refused_ends (flags : FlagSet) {step : Step} {feature : String} {refusal : Failure}
    (demanded : step.demand? flags.registry = some (feature, .error refusal))
    (scopes : List Scope) (w : World) :
    ∃ w', step.run flags scopes w = .error refusal w' ∧ World.Reported w w' := by
  cases step with
  | act asked action =>
    obtain ⟨_, own, same⟩ := Option.map_eq_some_iff.1 demanded
    cases same
    obtain ⟨w', ran, reported⟩ := Ends.of_error (run_runsLike flags feature own w w rfl)
    refine ⟨w', ?_, reported⟩
    simp only [Step.run, bind_apply, ran]
  | _ => cases demanded

/-- A step that demands nothing ends like the machine's if its read does. -/
theorem reading_ends (flags : FlagSet) (hR : Grounded R) (hg : ∀ {w s}, R w s → s.groups.Oblivious)
    {step : Step} (switch : step.switches = true → Switchable R) (hm : flags.meaning.Oblivious)
    (reading : step.demand? flags.registry = none)
    (hr : ∀ {α : Type} (r : Read α), r.name = step.readName → Responds flags.adapter rules P R r)
    (again : ∀ feature, step = .act feature .overview →
      Responds flags.adapter rules R R (.get feature))
    (weaken : ∀ {w s}, P w s → R w s) (scopes : List Scope) {w : World} {s : ReferenceState}
    (h : P w s) :
    StepEnds R (step.run flags scopes w) ((flags.reference rules).step step s) := by
  cases step with
  | act feature action =>
    have none : action.demand? flags.registry = none := Option.map_eq_none_iff.1 reading
    refine act_ends ?_ scopes h
    unfold Reference.run
    have unasked : action.demand? (flags.reference rules).registry = Option.none := none
    rw [unasked]
    exact ask_matches hR hm hg none hr fun overview => again feature (overview ▸ rfl)
  | features =>
    have named := read_ends (hr .features rfl) (f := fun names => .names names.names)
      (fun a b same => congrArg (fun names => Reply.names (NameSet.names names)) same) scopes h
    simp only [Step.run, features, bind_assoc, pure_bind]
    exact named
  | preload asked =>
    have loaded := read_ends (hr (.getMulti asked) rfl) (f := fun _ => .names asked)
      (fun _ _ _ => rfl) scopes h
    simp only [Step.run, preload, bind_assoc, pure_bind]
    exact loaded
  | preloadAll =>
    have same (a b : RawFeatures) (alike : Read.getAll.Alike a b) :
        (Reply.listing (a.rows.map (·.1))).Alike (.listing (b.rows.map (·.1))) := alike
    have listed := read_ends (hr .getAll rfl) same scopes h
    simp only [Step.run, preloadAll, bind_assoc, pure_bind]
    exact listed
  | enter =>
    simp only [Step.run, Scope.enter, bind_apply]
    cases flags.adapter.cache? with
    | none => exact ⟨rfl, weaken h⟩
    | some cache => exact ⟨rfl, switch rfl cache true (weaken h)⟩
  | leave =>
    cases scopes with
    | nil => exact ⟨rfl, weaken h⟩
    | cons scope outer =>
      obtain ⟨cache?, wasActive⟩ := scope
      cases cache? with
      | none => exact ⟨rfl, weaken h⟩
      | some cache => exact ⟨rfl, switch rfl cache wasActive (weaken h)⟩

theorem step_ends (hs : Serves flags.adapter rules R) (hr : rules.Sound)
    (hg : ∀ {w s}, R w s → s.groups.Oblivious) (hm : flags.meaning.Oblivious) {step : Step}
    (switch : step.switches = true → Switchable R) (scopes : List Scope) {w : World}
    {s : ReferenceState} (h : R w s) :
    StepEnds R (step.run flags scopes w) ((flags.reference rules).step step s) := by
  cases demanded : step.demand? flags.registry with
  | none =>
    exact reading_ends flags hs.grounded hg switch hm demanded (fun r _ => hs.read r)
      (fun _ _ => hs.read _) id scopes h
  | some demand =>
    cases step with
    | act feature action => exact act_ends (run_matches hs hr hm hg feature action) scopes h
    | _ => cases demanded

/-- Behind an adapter that lists features as the machine does a step ends with the same reply. -/
theorem step_ends_same (hs : Serves flags.adapter rules R)
    (listed : Matches R Eq (flags.adapter.read .getAll) (rules.read .getAll)) (hr : rules.Sound)
    (hg : ∀ {w s}, R w s → s.groups.Oblivious) (hm : flags.meaning.Oblivious) {step : Step}
    (switch : step.switches = true → Switchable R) (scopes : List Scope) {w : World}
    {s : ReferenceState} (h : R w s) :
    StepEndsBy Eq R (step.run flags scopes w) ((flags.reference rules).step step s) := by
  by_cases other : step = .preloadAll
  · have both := MatchesFrom.bind listed (C := fun (a : Reply × List Scope) b => a.1 = b)
      (f := fun all => pure (.listing (all.rows.map (·.1)), scopes))
      (g := fun all => pure (.listing (all.rows.map (·.1))))
      fun _ _ same => .pure (same ▸ rfl)
    subst other
    simp only [Step.run, preloadAll, bind_assoc, pure_bind]
    exact both w s h
  · rcases (step_ends hs hr hg hm switch scopes h).elim with
      ⟨reply, w', reply', s', ran, spec_ran, alike, related⟩ |
      ⟨failure, w', s', ran, spec_ran, related⟩
    · rw [ran, spec_ran]
      exact ⟨alike.eq ((flags.reference rules).step_unlisted other spec_ran), related⟩
    · rw [ran, spec_ran]
      exact ⟨rfl, related⟩

/-! ## A run -/

/-- The trace relates to the machine's as the steps do, whichever scopes are open at first. -/
theorem trace_like {C : Reply → Reply → Prop} (grounded : Grounded R) (steady : Steady store R)
    (each : ∀ (step : Step) (scopes : List Scope) {w : World} {s : ReferenceState}, R w s →
      StepEndsBy C R (step.run flags scopes w) ((flags.reference rules).step step s))
    (steps : List Step) (scopes : List Scope) {w : World} {s : ReferenceState} (h : R w s) :
    List.Forall₂ (Moment.Like C) (flags.trace store scopes steps w)
      ((flags.reference rules).trace steps s) := by
  induction steps generalizing scopes w s with
  | nil => exact .nil
  | cons step rest ih =>
    have drawn {w : World} {s : ReferenceState} (h : R w s) :
        w.surroundings.drawn = s.surroundings.drawn := (grounded.surroundings h).drawn
    unfold trace Reference.trace
    rcases (each step scopes h).elim with
      ⟨⟨reply, inside⟩, w', reply', s', ran, spec_ran, alike, related⟩ |
      ⟨failure, w', s', ran, spec_ran, related⟩
    · simp only [ran, spec_ran]
      exact .cons ⟨alike, steady.records related, drawn related⟩ (ih inside related)
    · simp only [ran, spec_ran]
      exact .cons ⟨rfl, steady.records related, drawn related⟩ (ih scopes related)

/-- The trace is like the machine's. -/
theorem trace_alike (flags : FlagSet) (hs : Serves flags.adapter rules R) (hr : rules.Sound)
    (steady : Steady store R) (hm : flags.meaning.Oblivious) (steps : List Step)
    (scopes : List Scope) {w : World} {s : ReferenceState} (h : R w s) :
    List.Forall₂ Moment.Alike (flags.trace store scopes steps w)
      ((flags.reference rules).trace steps s) :=
  trace_like hs.grounded steady
    (fun _ scopes _ _ h => step_ends hs hr steady.oblivious hm (fun _ => steady.switch) scopes h)
    steps scopes h

/-- Behind an adapter that lists features as the machine does it is the machine's. -/
theorem trace_same (flags : FlagSet) (hs : Serves flags.adapter rules R)
    (listed : Matches R Eq (flags.adapter.read .getAll) (rules.read .getAll)) (hr : rules.Sound)
    (steady : Steady store R) (hm : flags.meaning.Oblivious) (steps : List Step)
    (scopes : List Scope) {w : World} {s : ReferenceState} (h : R w s) :
    flags.trace store scopes steps w = (flags.reference rules).trace steps s := by
  have like := trace_like hs.grounded steady
    (fun _ scopes _ _ h =>
      step_ends_same hs listed hr steady.oblivious hm (fun _ => steady.switch) scopes h)
    steps scopes h
  exact List.forall₂_eq_eq_eq ▸ like.imp fun _ _ same => same.eq

/-! ## Outside of scopes -/

variable {cache : String} {Off : World → ReferenceState → Prop}

theorem Nested.anywhere (resting : Resting flags.adapter cache Off R) {w : World}
    {s : ReferenceState} : ∀ {scopes : List Scope}, Nested cache Off R w s scopes → R w s
  | [], h => resting.anywhere h
  | _ :: _, h => h.2

section

variable (resting : Resting flags.adapter cache Off R) (hs : Serves flags.adapter rules R)
  (ho : Serves flags.adapter rules Off)
  (listed : Matches Off Eq (flags.adapter.read .getAll) (rules.read .getAll))
  (hr : rules.Sound) (steady : Steady store R) (hm : flags.meaning.Oblivious)

include resting hs ho listed hr steady hm

/-- If no scope is open a step ends with the same reply as the machine's. -/
theorem step_nested (step : Step) {scopes : List Scope} {w : World} {s : ReferenceState}
    (h : Nested cache Off R w s scopes) :
    Ends (ε := Failure) (fun (a : Reply × List Scope) (b : Reply) w' s' =>
        (scopes = [] → a.1 = b) ∧ Nested cache Off R w' s' a.2)
      (fun w' s' => Nested cache Off R w' s' scopes)
      (step.run flags scopes w) ((flags.reference rules).step step s) := by
  cases switches : step.switches with
  | false =>
    have never {P : Prop} (on : step.switches = true) : P := nomatch switches.symm.trans on
    cases scopes with
    | nil =>
      rcases (step_ends_same ho listed hr (fun held => steady.oblivious (resting.anywhere held)) hm
          never [] h).elim with
        ⟨⟨reply, inside⟩, w', _, s', ran, spec_ran, same, related⟩ |
        ⟨failure, w', s', ran, spec_ran, related⟩
      · rw [ran, spec_ran]
        cases Step.scopes_of_run switches ran
        exact ⟨fun _ => same, related⟩
      · rw [ran, spec_ran]
        exact ⟨rfl, related⟩
    | cons scope outer =>
      rcases (step_ends hs hr steady.oblivious hm never (scope :: outer) h.2).elim with
        ⟨⟨reply, inside⟩, w', _, s', ran, spec_ran, alike, related⟩ |
        ⟨failure, w', s', ran, spec_ran, related⟩
      · rw [ran, spec_ran]
        cases Step.scopes_of_run switches ran
        exact ⟨nofun, h.1, related⟩
      · rw [ran, spec_ran]
        exact ⟨rfl, h.1, related⟩
  | true =>
    cases step with
    | enter =>
      simp only [Step.run, Scope.enter, bind_apply, resting.own]
      refine ⟨fun _ => rfl, ?_, steady.switch cache true (Nested.anywhere resting h)⟩
      cases scopes with
      | nil =>
        show some (⟨some cache, (w.cache cache).active⟩ : Scope) = _
        rw [resting.off h]
      | cons scope outer => exact h.1
    | leave =>
      match scopes, h with
      | [], h => exact ⟨fun _ => rfl, h⟩
      | [scope], h =>
        cases h.1
        exact ⟨nofun, resting.left h.2⟩
      | ⟨none, _⟩ :: next :: outer, h => exact ⟨nofun, h.1, h.2⟩
      | ⟨some other, wasActive⟩ :: next :: outer, h =>
        exact ⟨nofun, h.1, steady.switch other wasActive h.2⟩
    | _ => cases switches

/-- The moments of the trace at which no scope is open are the machine's. -/
theorem trace_outside (steps : List Step) (scopes : List Scope) {w : World} {s : ReferenceState}
    (h : Nested cache Off R w s scopes) (n : Nat)
    (outside : (flags.after (steps.take n) scopes w).1 = []) :
    (flags.trace store scopes steps w)[n]? = ((flags.reference rules).trace steps s)[n]? := by
  induction steps generalizing scopes w s n with
  | nil => rfl
  | cons step rest ih =>
    have held {scopes : List Scope} {w : World} {s : ReferenceState}
        (h : Nested cache Off R w s scopes) :
        (w.store store).records = s.records ∧ w.surroundings.drawn = s.surroundings.drawn :=
      ⟨steady.records (Nested.anywhere resting h),
        (hs.grounded.surroundings (Nested.anywhere resting h)).drawn⟩
    unfold trace Reference.trace
    rcases (step_nested resting hs ho listed hr steady hm step h).elim with
      ⟨⟨reply, inside⟩, w', reply', s', ran, spec_ran, same, related⟩ |
      ⟨failure, w', s', ran, spec_ran, related⟩
    · simp only [ran, spec_ran]
      cases n with
      | zero =>
        have same : reply = reply' := same outside
        obtain ⟨records, drawn⟩ := held related
        rw [List.getElem?_cons_zero, List.getElem?_cons_zero, same, records, drawn]
      | succ n =>
        refine ih inside related n ?_
        rw [List.take_succ_cons, after, ran] at outside
        exact outside
    · simp only [ran, spec_ran]
      cases n with
      | zero =>
        obtain ⟨records, drawn⟩ := held related
        rw [List.getElem?_cons_zero, List.getElem?_cons_zero, records, drawn]
      | succ n =>
        refine ih scopes related n ?_
        rw [List.take_succ_cons, after, ran] at outside
        exact outside

end

end FlagSet

end FeatureGates
