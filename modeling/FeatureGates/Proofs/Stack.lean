import FeatureGates.Proofs.Usage
import FeatureGates.Settings.Basic

/-!
# Stacks of wrappers

Settings put up to five wrappers around a store in memory. What comes out
serves under the rules that the settings stand for
(`StackSettings.serves_build`): wrapper by wrapper from the inside, where
everything below the memoizing one serves exactly.

So a trace through the stack is like the trace of the reference machine
under these rules, whatever combination of wrappers there is and however
scopes of memoizing are opened and closed on the way. It is the same trace
where nothing is memoized (`StackSettings.trace_build_alike`): the cache is
off outside of scopes (`Switched`), and a memoizing adapter whose cache is
off is as good as none. Within a scope features may be listed in another
order than that of the store, and nothing else differs
(`StackSettings.trace_memoizing_reordered`).
-/

namespace FeatureGates

/-- Reads of features that do not exist are refused. -/
def Strictness.refuses : Strictness → Bool
  | .refuse => true
  | .warn => false
  | .ignore => false
  | .flag on => on

/-! ## Below the memoizing wrapper -/

namespace ServesExactly

variable {adapter : Adapter} {limit? : Option Int} {refuses : Bool} {rules : Rules}
  {R : World → ReferenceState → Prop}

theorem around_actorLimit (h : ServesExactly adapter .lenient R) (limit? : Option Int) :
    ServesExactly (StackSettings.around .actorLimit limit? adapter) ⟨false, limit?, false⟩ R := by
  cases limit? with
  | none => exact h
  | some limit => exact h.actorLimit limit

theorem around_strict (h : ServesExactly adapter ⟨false, limit?, false⟩ R) (strict : Strictness) :
    ServesExactly (StackSettings.around .strict strict.missing? adapter)
      ⟨false, limit?, strict.refuses⟩ R := by
  cases strict with
  | refuse => exact h.strict
  | warn => exact h.strictWarning
  | ignore => exact h
  | flag on =>
    cases on with
    | true => exact h.strict
    | false => exact h

theorem if_readOnly (h : ServesExactly adapter ⟨false, limit?, refuses⟩ R) (readOnly : Bool) :
    ServesExactly (if readOnly then .readOnly adapter else adapter)
      ⟨readOnly, limit?, refuses⟩ R := by
  cases readOnly with
  | true => exact h.readOnly
  | false => exact h

end ServesExactly

/-- A world that holds a machine's state, with caches that may be anything. -/
def World.HoldsAnyhow (store : String) (groups : Groups) (world : World) (state : ReferenceState) :
    Prop :=
  ∃ frame : Frame, frame.groups = groups ∧ world.Holds store frame state

/-- What serves whatever the caches are serves when they may be anything. -/
theorem ServesExactly.anyhow {adapter : Adapter} {rules : Rules} {store : String}
    (h : ∀ frame, ServesExactly adapter rules (World.Holds store frame)) (groups : Groups) :
    ServesExactly adapter rules (World.HoldsAnyhow store groups) where
  grounded := {
    unseeing := by
      rintro v w s same ⟨frame, own, holds⟩
      exact ⟨frame, own, World.Holds.unseeing v w s same holds⟩
    groups := fun ⟨_, _, holds⟩ => holds.groups
    surroundings := fun ⟨_, _, holds⟩ => holds.surroundings
    goOn := fun ⟨frame, own, holds⟩ alike => ⟨frame, own, World.Holds.grounded.goOn holds alike⟩ }
  read r := by
    rintro w s ⟨frame, own, holds⟩
    exact ((h frame).read r w s holds).mono (fun _ _ _ _ ends => ⟨ends.1, frame, own, ends.2⟩)
      fun _ _ holds => ⟨frame, own, holds⟩
  write feature write := by
    rintro w s ⟨frame, own, holds⟩
    exact ((h frame).write feature write w s holds).mono
      (fun _ _ _ _ ends => ⟨ends.1, frame, own, ends.2⟩) fun _ _ holds => ⟨frame, own, holds⟩

/-! ## Switching caches -/

theorem World.HoldsAnyhow.steady {store : String} {groups : Groups} (hg : groups.Oblivious) :
    Steady store (World.HoldsAnyhow store groups) where
  records := fun ⟨_, _, holds⟩ => holds.records
  oblivious := fun ⟨_, own, holds⟩ => (holds.groups.symm.trans (holds.registered.trans own)) ▸ hg
  switch := by
    rintro w s cache active ⟨frame, own, holds⟩
    refine ⟨⟨(w.putCache cache ((w.cache cache).setActive active)).caches, frame.overlapping,
      frame.groups⟩, own, ?_⟩
    exact { holds with caches := rfl }

theorem Memoized.steady {store cache : String} {refuses : Bool} {groups : Groups}
    (hg : groups.Oblivious) : Steady store (Memoized store cache refuses groups) where
  records h := h.holds.records
  oblivious h := (h.holds.groups.symm.trans h.holds.registered) ▸ hg
  switch w s other active h := {
    holds := { h.holds with caches := rfl, overlapping := rfl }
    calm := h.calm
    distinct := h.distinct
    coherent := by
      rw [World.cache_putCache]
      split
      · rename_i own
        exact own ▸ h.coherent.setActive active
      · exact h.coherent }

/-- Outside of scopes a memoizing adapter has its cache off. -/
theorem Memoized.resting {adapter : Adapter} {store cache : String} {refuses : Bool}
    {groups : Groups} (hg : groups.Oblivious) (own : adapter.cache? = some cache) :
    Resting adapter cache (Switched false store cache refuses groups)
      (Memoized store cache refuses groups) where
  own := own
  anywhere h := h.memoized
  off h := h.active
  left h := ⟨(Memoized.steady hg).switch cache false h, by
    rw [World.cache_putCache, if_pos rfl]
    rfl⟩

/-! ## The whole stack -/

namespace StackSettings

/-- What settings refuse. -/
def rules (settings : StackSettings) : Rules :=
  ⟨settings.readOnly, settings.actorLimit, settings.strict.refuses⟩

theorem sound_rules (settings : StackSettings) : settings.rules.Sound := settings.one_le_actorLimit

/-- How a world agrees with a machine: with a coherent cache, if there is to be one. -/
def Agrees (settings : StackSettings) (store cache : String) (groups : Groups) :
    World → ReferenceState → Prop :=
  if settings.memoize then Memoized store cache settings.rules.refusesMissing groups
  else World.HoldsAnyhow store groups

variable (settings : StackSettings) (store name cache : String)

/-- A store in the wrappers below the memoizing one serves under all rules. -/
theorem serves_guarded (frame : Frame) : ServesExactly
    (if settings.readOnly then
      .readOnly (around .strict settings.strict.missing?
        (around .actorLimit settings.actorLimit (.memory store name)))
    else around .strict settings.strict.missing?
      (around .actorLimit settings.actorLimit (.memory store name)))
    settings.rules (World.Holds store frame) :=
  (((serves_memory name).around_actorLimit settings.actorLimit).around_strict
    settings.strict).if_readOnly settings.readOnly

/-- A store in all the wrappers that settings ask for serves under their rules. -/
theorem serves_build (instrumenter : Instrumenter) (groups : Groups) :
    Serves (settings.build cache instrumenter (.memory store name)) settings.rules
      (settings.Agrees store cache groups) := by
  have guarded := settings.serves_guarded store name
  unfold build Agrees
  dsimp only
  cases settings.memoize with
  | true =>
    have memoized := ServesExactly.memoizing cache groups guarded
    cases settings.instrument with
    | true => exact memoized.instrumented instrumenter
    | false => exact memoized
  | false =>
    have served := (ServesExactly.anyhow guarded groups).serves
    cases settings.instrument with
    | true => exact served.instrumented instrumenter
    | false => exact served

/-- Without memoizing reads are answered exactly as under the rules. -/
theorem reads_build (direct : settings.memoize = false) (instrumenter : Instrumenter)
    (groups : Groups) {α : Type} (r : Read α) :
    Matches (settings.Agrees store cache groups) Eq
      ((settings.build cache instrumenter (.memory store name)).read r)
      (settings.rules.read r) := by
  have exactly := ServesExactly.anyhow (settings.serves_guarded store name) groups
  unfold build Agrees
  simp only [direct, Bool.false_eq_true, if_false]
  cases settings.instrument with
  | true =>
    exact Adapter.watched_refines exactly.grounded.unseeing instrumenter _ _ r.tame_details
      r.shown (exactly.read r)
  | false => exact exactly.read r

section

variable (memoize : settings.memoize = true) (instrumenter : Instrumenter) (groups : Groups)

include memoize

/-- While its cache is off a stack that memoizes serves just as well. -/
theorem serves_build_off :
    Serves (settings.build cache instrumenter (.memory store name)) settings.rules
      (Switched false store cache settings.rules.refusesMissing groups) := by
  have memoized := ServesExactly.memoizing_off cache groups (settings.serves_guarded store name)
  unfold build
  simp only [memoize, if_true]
  cases settings.instrument with
  | true => exact memoized.instrumented instrumenter
  | false => exact memoized

/-- And its reads are answered exactly as under the rules. -/
theorem reads_build_off {α : Type} (r : Read α) :
    Matches (Switched false store cache settings.rules.refusesMissing groups) Eq
      ((settings.build cache instrumenter (.memory store name)).read r)
      (settings.rules.read r) := by
  have exactly : Matches (Switched false store cache settings.rules.refusesMissing groups) Eq
      ((Adapter.memoizing cache _).read r) (settings.rules.read r) :=
    memoizing_read_off (settings.serves_guarded store name) r
  unfold build
  simp only [memoize, if_true]
  cases settings.instrument with
  | true =>
    exact Adapter.watched_refines Switched.grounded.unseeing instrumenter _ _ r.tame_details
      r.shown exactly
  | false => exact exactly

theorem cache?_build (inner : Adapter) :
    (settings.build cache instrumenter inner).cache? = some cache := by
  unfold build
  simp only [memoize, if_true]
  cases settings.instrument <;> rfl

end

theorem steady_agrees {groups : Groups} (hg : groups.Oblivious) :
    Steady store (settings.Agrees store cache groups) := by
  unfold Agrees
  split
  · exact Memoized.steady hg
  · exact World.HoldsAnyhow.steady hg

/-- A stack has the name of the store in it. -/
theorem name_build (instrumenter : Instrumenter) (inner : Adapter) :
    (settings.build cache instrumenter inner).name = inner.name := by
  have around {α : Type} (wrap : α → Adapter → Adapter)
      (h : ∀ x adapter, (wrap x adapter).name = adapter.name) (choice : Option α)
      (adapter : Adapter) : (around wrap choice adapter).name = adapter.name := by
    cases choice with
    | none => rfl
    | some x => exact h x adapter
  have guarded := (around .strict (fun _ _ => rfl) settings.strict.missing?
    (StackSettings.around .actorLimit settings.actorLimit inner)).trans
    (around .actorLimit (fun _ _ => rfl) settings.actorLimit inner)
  unfold build
  cases settings.readOnly <;> cases settings.memoize <;> cases settings.instrument <;> exact guarded

/-- A world in which nothing has been read yet agrees with the machine. -/
theorem agrees_of_idle {world : World}
    (available : ∀ count operation, (world.store store).outage count operation = none)
    (distinct : (world.store store).records.Distinct) (calm : world.overlapping = false)
    (idle : world.cache cache = .idle) :
    settings.Agrees store cache world.groups world
      ⟨(world.store store).records, world.surroundings, world.groups⟩ := by
  have holds := World.holds_self available
  unfold Agrees
  split
  · exact ⟨holds, calm, distinct, idle ▸ Cache.Coherent.of_idle ..⟩
  · exact ⟨_, rfl, holds⟩

/-- Every run through a stack ends like that of the reference machine, step by step: the same, but
for the order in which all features are listed, and that only in scopes of a stack that memoizes. -/
theorem trace_build_alike (watcher instrumenter : Instrumenter) (registry : Registry)
    (meaning : Meaning) (hm : meaning.Oblivious) (world : World) (hg : world.groups.Oblivious)
    (available : ∀ count operation, (world.store store).outage count operation = none)
    (distinct : (world.store store).records.Distinct) (calm : world.overlapping = false)
    (idle : world.cache cache = .idle) (steps : List Step) :
    let flags : FlagSet :=
      ⟨settings.build cache watcher (.memory store name), instrumenter, registry, meaning⟩
    let reference : Reference := ⟨settings.rules, registry, meaning, name⟩
    let state : ReferenceState :=
      ⟨(world.store store).records, world.surroundings, world.groups⟩
    List.Forall₂ Moment.Alike (flags.trace store [] steps world) (reference.trace steps state) ∧
      ∀ n, settings.memoize = false ∨ (flags.after (steps.take n) [] world).1 = [] →
        (flags.trace store [] steps world)[n]? = (reference.trace steps state)[n]? := by
  intro flags reference state
  have same : flags.reference settings.rules = reference :=
    congrArg _ (settings.name_build cache watcher (.memory store name))
  have serves := settings.serves_build store name cache watcher world.groups
  have steady := settings.steady_agrees store cache hg
  have agrees := settings.agrees_of_idle store cache available distinct calm idle
  rw [← same]
  refine ⟨flags.trace_alike serves settings.sound_rules steady hm steps [] agrees,
    fun n outside => ?_⟩
  cases memoize : settings.memoize with
  | false =>
    have listed := settings.reads_build store name cache memoize watcher world.groups .getAll
    rw [flags.trace_same serves listed settings.sound_rules steady hm steps [] agrees]
  | true =>
    have outside := outside.resolve_left fun off => nomatch memoize.symm.trans off
    have memoized : settings.Agrees store cache world.groups =
        Memoized store cache settings.rules.refusesMissing world.groups := if_pos memoize
    rw [memoized] at serves steady agrees
    have own := settings.cache?_build cache memoize watcher (.memory store name)
    refine flags.trace_outside (Memoized.resting hg own) serves
      (settings.serves_build_off store name cache memoize watcher world.groups)
      (settings.reads_build_off store name cache memoize watcher world.groups .getAll)
      settings.sound_rules steady hm steps [] ⟨agrees, ?_⟩ n outside
    rw [idle]
    rfl

/-- Settings that ask for memoizing alone. -/
def memoizing : StackSettings := ⟨.ignore, false, none, true, false, one_le_of_none⟩

/-- Listed again in a scope, features that were not added in the order of their names have changed
places. -/
theorem trace_memoizing_reordered :
    (FlagSet.trace ⟨memoizing.build "cache" .none (.memory "store" "memory"), .none, .standard,
          fun _ _ => pure (.fresh .null)⟩ "store" []
        [.act "b" .add, .act "a" .add, .enter, .preloadAll, .preloadAll]
        (.fresh ⟨fun _ => .int 0, 0, .int 0, [], []⟩)).map (·.outcome) =
        [.ok (.answer (.truth true)), .ok (.answer (.truth true)), .ok .done,
          .ok (.listing ["b", "a"]), .ok (.listing ["a", "b"])] ∧
      (Reference.trace ⟨memoizing.rules, .standard, fun _ _ => pure (.fresh .null), "memory"⟩
        [.act "b" .add, .act "a" .add, .enter, .preloadAll, .preloadAll]
        ⟨.empty, ⟨fun _ => .int 0, 0, .int 0, [], []⟩, .empty⟩).map (·.outcome) =
        [.ok (.answer (.truth true)), .ok (.answer (.truth true)), .ok .done,
          .ok (.listing ["b", "a"]), .ok (.listing ["b", "a"])] :=
  ⟨rfl, rfl⟩

/-- Settings that ask for every wrapper but the one that refuses all writes. -/
def limited : StackSettings :=
  ⟨.refuse, false, some 1, true, true, fun _ mem => by cases mem; decide⟩

/-- The flags that they ask for, of a store in memory. -/
def limitedFlags : FlagSet :=
  ⟨limited.build "cache" .logging (.memory "store" "memory"), .logging, .standard,
    fun _ _ => pure (.fresh .null)⟩

/-- A world with two features that were not added in the order of their names. -/
def unsortedWorld : World :=
  (World.fresh ⟨fun _ => .int 0, 0, .int 0, [], []⟩).putStore "store"
    ⟨(Table.empty.put "search" .empty).put "export" .empty, fun _ _ => none, 0⟩

/-- All features are loaded, and then in a scope two actors are enabled, and features loaded of
which one is missing. -/
def limitedSteps : List Step :=
  [.preloadAll, .enter,
    .act "search" (.changeActor .enable (.actor (.text "User;1") (.record []))),
    .act "search" (.changeActor .enable (.actor (.text "User;2") (.record []))),
    .preload ["search", "absent"], .leave]

/-- The second actor is refused, and so is the missing feature. Before the scope the features are
listed as they were added. -/
theorem trace_limited_alike :
    let reference : Reference :=
      ⟨limited.rules, .standard, fun _ _ => pure (.fresh .null), "memory"⟩
    let state : ReferenceState :=
      ⟨(unsortedWorld.store "store").records, unsortedWorld.surroundings, unsortedWorld.groups⟩
    List.Forall₂ Moment.Alike (limitedFlags.trace "store" [] limitedSteps unsortedWorld)
        (reference.trace limitedSteps state) ∧
      (limitedFlags.after (limitedSteps.take 0) [] unsortedWorld).1 = [] ∧
      (limitedFlags.trace "store" [] limitedSteps unsortedWorld)[0]? =
        (reference.trace limitedSteps state)[0]? := by
  intro reference state
  have distinct : (unsortedWorld.store "store").records.Distinct :=
    Table.distinct_put (Table.distinct_put Table.distinct_empty "search" .empty) "export" .empty
  obtain ⟨alike, outside⟩ := trace_build_alike limited "store" "memory" "cache" .logging .logging
    .standard (fun _ _ => pure (.fresh .null)) (fun _ _ _ => Check.Oblivious.pure _) unsortedWorld
    (fun _ _ found => nomatch found) (fun _ _ => rfl) distinct rfl rfl limitedSteps
  exact ⟨alike, rfl, outside 0 (.inr rfl)⟩

end StackSettings

end FeatureGates
