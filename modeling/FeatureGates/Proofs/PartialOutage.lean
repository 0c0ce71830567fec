import FeatureGates.Proofs.Changes
import FeatureGates.Proofs.Following
import FeatureGates.Proofs.Lasting
import FeatureGates.Proofs.Outages

/-!
# A cache in front of a partial outage

Where writes go to two stores, a write may be made in the first and then
fail in the second. A memoizing adapter does not learn of it: it tells its
cache of writes that have succeeded, and goes on to give what it knows. So
a feature that the cache knows of when such a write changes it is *stale*
(`Course.step`), until the cache has dropped what it knew of it.

That is all that can be stale. By induction over the steps, whatever is
struck in the second store, every read is answered with what the first
store holds, features that are stale aside (`FlagSet.reads_trail`). A
feature that is cached and then enabled in vain is one
(`FlagSet.behind_after_failure`).
-/

namespace FeatureGates

variable {α : Type}

/-! ## What a cache knows -/

/-- The cache has an answer in which the feature has a place. -/
def Cache.Knows (cache : Cache) (feature : String) : Prop :=
  cache.names.isSome = true ∨ cache.values.contains feature = true

instance (cache : Cache) (feature : String) : Decidable (cache.Knows feature) :=
  inferInstanceAs (Decidable (_ ∨ _))

/-- What a cache does not know of is not stale in it. -/
theorem Cache.Follows.known_stale {lag : Lag} {cache : Cache} {records : Records}
    (h : cache.Follows lag records) :
    cache.Follows ⟨lag.hidden, fun feature => cache.Knows feature ∧ lag.stale feature⟩ records where
  names := by
    show Option.Rel _ cache.names lag.hidden
    cases known : cache.names with
    | none =>
      rw [h.hidden_of_unknown known]
      exact .none
    | some names =>
      obtain ⟨hidden, lacking, all⟩ := h.hidden_of_known known
      have knows (name : String) : cache.Knows name := .inl (known ▸ rfl)
      rw [lacking]
      exact .some fun name fresh => all name fun old => fresh ⟨knows name, old⟩
  values feature raw fresh known :=
    h.values feature raw (fun old => fresh ⟨.inr (Table.contains_of_find? known), old⟩) known
  all_shown := h.all_shown
  all_known feature complete fresh := by
    -- a cache that has everything has names, so it knows of every feature
    refine h.all_known feature complete fun old => fresh ⟨.inl ?_, old⟩
    cases known : cache.names with
    | none => cases (h.hidden_of_unknown known).symm.trans (h.all_shown complete)
    | some names => rfl

namespace Lag

theorem stale_afterRead (lag : Lag) (r : Read α) : (lag.afterRead r).stale = lag.stale := by
  cases r <;> rfl

variable {lag : Lag}

/-- A read does not hide anything. -/
theorem shown_afterRead (shown : lag.hidden.getD [] = []) (r : Read α) :
    (lag.afterRead r).hidden.getD [] = [] := by
  cases r with
  | features => exact shown
  | get feature => exact shown
  | getMulti features => exact shown
  | getAll => rfl

/-- Nor does a write to a feature that exists if it has to. -/
theorem shown_afterWrite (shown : lag.hidden.getD [] = []) {feature : String} {w : Write}
    {records after : Records} {made : Bool} (suits : w.Suits feature records)
    (done : Filing.write feature w records = .ok made after) :
    (lag.afterWrite feature records after w).hidden.getD [] = [] := by
  have gate (ha : w ≠ .add) (hr : w ≠ .remove) :
      (if after.contains feature && !records.contains feature then lag.hidden.map (feature :: ·)
        else lag.hidden).getD [] = [] := by
    rw [Filing.contains_of_made suits ha hr done, Bool.and_not_self, if_neg Bool.false_ne_true]
    exact shown
  cases w with
  | add => rfl
  | remove => rfl
  | clear => exact gate nofun nofun
  | enable slot thing => exact gate nofun nofun
  | disable slot thing => exact gate nofun nofun

end Lag

/-! ## A store and its mirror behind a cache -/

/-- A world in which a cache has all that a store holds, but for what is stale in it. -/
structure World.Trails (store cache : String) (stale : String → Prop) (world : World)
    (records : Records) : Prop where
  fronted : world.Fronted store cache records
  follows : ∃ hidden, hidden.getD [] = [] ∧ (world.cache cache).Follows ⟨hidden, stale⟩ records

namespace World.Trails

variable {store cache : String} {stale : String → Prop} {w : World} {records : Records}

theorem lasting (store cache : String) (stale : String → Prop) (records : Records) :
    Lasting fun w => World.Trails store cache stale w records where
  surroundings _ h := { h with fronted := { h.fronted with } }
  events _ h := { h with fronted := { h.fronted with } }

/-- It is enough to look at a cache that is active. -/
theorem of_active (fronted : w.Fronted store cache records)
    (follows : (w.cache cache).active = true →
      ∃ hidden, hidden.getD [] = [] ∧ (w.cache cache).Follows ⟨hidden, stale⟩ records) :
    w.Trails store cache stale records := by
  refine ⟨fronted, ?_⟩
  cases on : (w.cache cache).active with
  | true => exact follows on
  | false =>
    rw [fronted.tidy.idle on]
    exact ⟨none, rfl, .unknowing stale records⟩

theorem mono (h : w.Trails store cache stale records) {stale' : String → Prop}
    (hs : ∀ feature, stale feature → stale' feature) : w.Trails store cache stale' records := by
  obtain ⟨hidden, shown, follows⟩ := h.follows
  exact ⟨h.fronted, hidden, shown, follows.mono hs⟩

theorem known (h : w.Trails store cache stale records) :
    w.Trails store cache (fun feature => (w.cache cache).Knows feature ∧ stale feature)
      records := by
  obtain ⟨hidden, shown, follows⟩ := h.follows
  exact ⟨h.fronted, hidden, shown, follows.known_stale⟩

theorem switch (h : w.Trails store cache stale records) (other : String) (active : Bool) :
    (w.putCache other ((w.cache other).setActive active)).Trails store cache stale records := by
  obtain ⟨hidden, shown, follows⟩ := h.follows
  refine of_active (h.fronted.switch other active) fun on => ⟨hidden, shown, ?_⟩
  rw [World.cache_putCache] at on ⊢
  split
  · rename_i own
    subst own
    rw [if_pos rfl] at on
    exact follows.setActive on
  · exact follows

/-! ### Reads -/

theorem keeps_read {inner : Adapter} (hin : inner.ReadsFrom store cache) (r : Read α) :
    Keeps (fun w => World.Trails store cache stale w records)
      ((Adapter.memoizing cache inner).read r) := by
  intro w h
  obtain ⟨hidden, shown, follows⟩ := h.follows
  obtain ⟨a, w', ran, fronted, answer⟩ := h.fronted.read_behind hin r
  rw [ran]
  let lag : Lag := ⟨hidden, stale⟩
  refine of_active fronted fun on => ⟨(lag.afterRead r).hidden, Lag.shown_afterRead shown r, ?_⟩
  have after := (answer lag follows).1 on
  have same : (lag.afterRead r).stale = stale := lag.stale_afterRead r
  rwa [← same]

end World.Trails

/-- Reads behind a failover adapter are those of its first store while that is available. -/
theorem Adapter.readsFrom_failover (store name cache : String) (caught : List Category)
    (second : Adapter) :
    (Adapter.failover true caught (.memory store name) second).ReadsFrom store cache := by
  intro w records α r h
  obtain ⟨w', ran, kept⟩ := h.read name r
  refine ⟨w', ?_, kept⟩
  rw [Adapter.read, readEither, Cache.tryCatch_apply, ran]

/-! ### Writes -/

/-- The records that a filing leaves, whether it is made or not. -/
def Filing.left (filing : Filing α) (records : Records) : Records :=
  match filing records with
  | .ok _ after => after
  | .error _ after => after

theorem Filing.left_keeps {filing : Filing α} {I : Records → Prop} (h : Keeps I filing)
    {records : Records} (hr : I records) : I (filing.left records) := by
  unfold left
  cases ran : filing records with
  | ok a after => exact h.of_ok hr ran
  | error failure after => exact h.of_error hr ran

/-- What an adapter writes is filed in a store, and leaves the cache in front of that alone. What
it fails to write may have been filed. -/
def Adapter.WritesTo (adapter : Adapter) (store cache : String) : Prop :=
  ∀ {w : World} {records : Records} (feature : String) (write : Write),
    w.Fronted store cache records →
      ∃ w', w'.Fronted store cache ((Filing.write feature write).left records) ∧
        w'.cache cache = w.cache cache ∧
        ((∃ made filed after, adapter.write feature write w = .ok made w' ∧
            Filing.write feature write records = .ok filed after) ∨
          ∃ failure, adapter.write feature write w = .error failure w')

/-- What happens to another store is nothing to a store behind its cache. -/
theorem World.Fronted.elsewhere {store cache other : String} {v w : World} {records : Records}
    (h : v.Fronted store cache records) (apart : store ≠ other)
    (aside : World.Elsewhere other v w) :
    w.Fronted store cache records ∧ w.cache cache = v.cache cache := by
  have same : w.cache cache = v.cache cache := by
    rw [World.cache, World.cache, aside.caches]
  have own := aside.stores store apart
  exact ⟨⟨own ▸ h.held, own ▸ h.available, aside.overlapping.trans h.calm, h.distinct,
    same ▸ h.tidy⟩, same⟩

/-- A failover adapter that writes to both of its stores writes to the first, whatever becomes of
the second. -/
theorem Adapter.writesTo_failover {store second : String} (apart : store ≠ second)
    (name secondName cache : String) (caught : List Category) :
    (Adapter.failover true caught (.memory store name) (.memory second secondName)).WritesTo
      store cache := by
  intro w records feature write h
  have ends := write_memory name h.holds feature write
  have distinct := Filing.left_keeps (Filing.keeps_distinct feature write) h.distinct
  unfold Filing.left at distinct ⊢
  simp only [Adapter.write, if_true, bind_apply]
  cases filed : Filing.write feature write records with
  | ok made after =>
    simp only [filed] at ends distinct ⊢
    obtain ⟨v, ran, holds⟩ := ends
    obtain ⟨fronted, same⟩ := h.of_holds holds distinct
    simp only [Adapter.write] at ran
    have aside := Adapter.keeps_writeStore_elsewhere second feature write v v (.refl second v)
    rw [ran]
    dsimp only
    cases mirrored : Adapter.writeStore second feature write v with
    | ok made' w' =>
      rw [mirrored] at aside
      obtain ⟨fronted', same'⟩ := fronted.elsewhere apart aside
      exact ⟨w', fronted', same'.trans same, .inl ⟨_, _, _, rfl, rfl⟩⟩
    | error failure w' =>
      rw [mirrored] at aside
      obtain ⟨fronted', same'⟩ := fronted.elsewhere apart aside
      exact ⟨w', fronted', same'.trans same, .inr ⟨_, rfl⟩⟩
  | error failure after =>
    simp only [filed] at ends distinct ⊢
    obtain ⟨v, ran, holds⟩ := ends
    obtain ⟨fronted, same⟩ := h.of_holds holds distinct
    simp only [Adapter.write] at ran
    rw [ran]
    exact ⟨v, fronted, same, .inr ⟨failure, rfl⟩⟩

namespace World.Trails

variable {store cache : String} {stale : String → Prop} {w : World} {records : Records}
  {inner : Adapter}

/-- A write that fails may leave what it has changed stale; one that succeeds leaves nothing so. -/
theorem write_trails (h : w.Trails store cache stale records) (hin : inner.WritesTo store cache)
    (feature : String) (write : Write) (suits : write.Suits feature records) :
    ((∃ made w' filed after, (Adapter.memoizing cache inner).write feature write w = .ok made w' ∧
        Filing.write feature write records = .ok filed after ∧
        w'.Trails store cache stale after) ∨
      ∃ failure w', (Adapter.memoizing cache inner).write feature write w = .error failure w' ∧
        w'.Trails store cache
          (fun other => stale other ∨
            ((Filing.write feature write).left records).find? other ≠ records.find? other)
          ((Filing.write feature write).left records)) := by
  obtain ⟨hidden, shown, follows⟩ := h.follows
  let lag : Lag := ⟨hidden, stale⟩
  have shown : lag.hidden.getD [] = [] := shown
  obtain ⟨w', fronted, same, ⟨made, filed, after, ran, done⟩ | ⟨failure, ran⟩⟩ :=
    hin feature write h.fronted
  · have left : (Filing.write feature write).left records = after := by
      rw [Filing.left, done]
    rw [left] at fronted
    simp only [Adapter.write, bind_apply, ran, Run.modifyCache, modify_apply, pure_apply, same]
    refine .inl ⟨made, _, filed, after, rfl, done, ?_⟩
    refine of_active (fronted.putCache (h.fronted.tidy.afterWrite feature write)) ?_
    rw [World.cache_putCache, if_pos rfl, Cache.active_afterWrite]
    intro on
    exact ⟨_, Lag.shown_afterWrite shown suits done, follows.afterWrite on done⟩
  · simp only [Adapter.write, bind_apply, ran]
    refine .inr ⟨failure, w', rfl, fronted, hidden, shown, ?_⟩
    rw [same]
    exact follows.afterFailure _

/-! ### Demands -/

/-- A run ends with the cache behind the store by no more than it was, and by what the run has
changed if it fails. -/
def EndsTrailing (store cache : String) (stale : String → Prop) (records : Records) (run : Run α)
    (w : World) : Prop :=
  ∃ after, match run w with
    | .ok _ w' => w'.Trails store cache stale after
    | .error _ w' => w'.Trails store cache
        (fun feature => stale feature ∨ after.find? feature ≠ records.find? feature) after

theorem write_ends (h : w.Trails store cache stale records) (hin : inner.WritesTo store cache)
    (feature : String) (write : Write) (suits : write.Suits feature records) :
    EndsTrailing store cache stale records ((Adapter.memoizing cache inner).write feature write)
      w := by
  rcases h.write_trails hin feature write suits with
    ⟨made, w', filed, after, ran, -, trails⟩ | ⟨failure, w', ran, trails⟩
  · exact ⟨after, by rwa [ran]⟩
  · exact ⟨(Filing.write feature write).left records, by rwa [ran]⟩

/-- What differs from records to which a feature has been added, differs from those before. -/
theorem changed_of_ensure {feature other : String} {write : Write} (hr : write ≠ .remove)
    (changed : ((Filing.write feature write).left (records.ensure feature)).find? other ≠
      (records.ensure feature).find? other) :
    ((Filing.write feature write).left (records.ensure feature)).find? other ≠
      records.find? other := by
  by_cases own : other = feature
  · subst own
    have there := Filing.left_keeps (Filing.keeps_contains other hr)
      (records.contains_ensure_self other)
    cases before : records.contains other with
    | true =>
      have same : records.ensure other = records := if_pos before
      rwa [same] at changed ⊢
    | false =>
      intro same
      rw [Table.contains, same, Table.find?_eq_none before] at there
      cases there
  · rwa [records.find?_ensure own] at changed

/-- Meeting a demand ends with nothing stale but what was, and what has changed if it fails. -/
theorem meet_ends (h : w.Trails store cache stale records) (hin : inner.WritesTo store cache)
    {flags : FlagSet} (adapter : flags.adapter = .memoizing cache inner) (feature : String)
    (demand : Demand) : EndsTrailing store cache stale records (flags.meet feature demand) w := by
  cases demand with
  | add =>
    rw [FlagSet.meet, adapter]
    exact h.write_ends hin feature .add trivial
  | remove =>
    rw [FlagSet.meet, adapter]
    exact h.write_ends hin feature .remove trivial
  | clear =>
    rw [FlagSet.meet, adapter]
    exact h.write_ends hin feature .clear trivial
  | change c gate thing =>
    unfold EndsTrailing
    simp only [FlagSet.meet, FlagSet.writeGate, bind_apply, adapter]
    rcases h.write_trails hin feature .add trivial with
      ⟨made, v, filed, between, ran, done, trails⟩ | ⟨failure, v, ran, trails⟩
    · rw [Filing.write_add] at done
      cases done
      have suits : (c.toWrite gate thing).Suits feature (records.ensure feature) := by
        cases c <;> exact records.contains_ensure_self feature
      rw [ran]
      rcases trails.write_trails hin feature (c.toWrite gate thing) suits with
        ⟨made', w', filed', after, ran', -, trails'⟩ | ⟨failure, w', ran', trails'⟩
      · exact ⟨after, by simpa only [ran'] using trails'⟩
      · refine ⟨(Filing.write feature (c.toWrite gate thing)).left (records.ensure feature), ?_⟩
        simp only [ran']
        refine trails'.mono fun other => Or.imp_right fun changed => changed_of_ensure ?_ changed
        cases c <;> nofun
    · exact ⟨(Filing.write feature .add).left records, by rwa [ran]⟩

end World.Trails

/-! ## A course of steps -/

/-- Where steps have led: the scopes that are open, the world, and what is stale in its cache. -/
structure Course where
  scopes : List Scope
  world : World
  stale : String → Prop

namespace Course

def start (world : World) : Course := ⟨[], world, fun _ => False⟩

/-- A step that fails makes stale what it has changed. What the cache no longer knows of is not
stale in it. -/
def step (flags : FlagSet) (store cache : String) (course : Course) (step : Step) : Course :=
  let before := (course.world.store store).records
  match step.run flags course.scopes course.world with
  | .ok (_, scopes) world =>
    ⟨scopes, world, fun feature => (world.cache cache).Knows feature ∧ course.stale feature⟩
  | .error _ world =>
    ⟨course.scopes, world, fun feature => (world.cache cache).Knows feature ∧
      (course.stale feature ∨ (world.store store).records.find? feature ≠ before.find? feature)⟩

def run (flags : FlagSet) (store cache : String) (course : Course) (steps : List Step) : Course :=
  steps.foldl (step flags store cache) course

/-- The cache is behind the store by no more than what is stale. -/
def Sound (store cache : String) (course : Course) : Prop :=
  course.world.Trails store cache course.stale (course.world.store store).records

variable {store cache : String} {inner : Adapter} {flags : FlagSet}

theorem sound_start {world : World}
    (available : ∀ count operation, (world.store store).outage count operation = none)
    (distinct : (world.store store).records.Distinct) (calm : world.overlapping = false)
    (idle : world.cache cache = .idle) : (start world).Sound store cache := by
  refine World.Trails.of_active
    ⟨rfl, available, calm, distinct, idle ▸ Cache.Tidy.of_idle⟩ fun on => ?_
  have on : (world.cache cache).active = true := on
  rw [idle] at on
  cases on

/-- Whatever step is taken, it leaves nothing stale but what was, and what has changed if it
fails. -/
theorem step_ends (adapter : flags.adapter = .memoizing cache inner)
    (reads : inner.ReadsFrom store cache) (writes : inner.WritesTo store cache)
    {stale : String → Prop} {w : World} {records : Records}
    (h : w.Trails store cache stale records) (step : Step) (scopes : List Scope) :
    World.Trails.EndsTrailing store cache stale records (step.run flags scopes) w := by
  have lasting := World.Trails.lasting store cache stale records
  cases demanded : step.demand? flags.registry with
  | none =>
    have kept := FlagSet.keeps_step lasting (fun r => adapter ▸ World.Trails.keeps_read reads r)
      (fun other active w trails => trails.switch other active)
      (fun feature d same => nomatch demanded.symm.trans same) scopes w h
    refine ⟨records, ?_⟩
    cases ran : step.run flags scopes w with
    | ok reply w' =>
      rw [ran] at kept
      exact kept
    | error failure w' =>
      rw [ran] at kept
      exact kept.mono fun feature => Or.inl
  | some demand =>
    obtain ⟨feature, demand⟩ := demand
    cases demand with
    | error refusal =>
      obtain ⟨w', ran, reported⟩ := FlagSet.refused_ends flags demanded scopes w
      refine ⟨records, ?_⟩
      rw [ran]
      exact (lasting.reported reported h).mono fun feature => Or.inl
    | ok d =>
      obtain ⟨after, met⟩ := h.meet_ends writes adapter feature d
      refine ⟨after, ?_⟩
      rcases (FlagSet.demand_ends flags demanded scopes w).elim with
        ⟨reply, w', made, v, ran, quiet, -, reported⟩ | ⟨failure, w', v, ran, quiet, reported⟩
      · rw [quiet] at met
        rw [ran]
        exact (World.Trails.lasting store cache _ after).reported reported met
      · rw [quiet] at met
        rw [ran]
        exact (World.Trails.lasting store cache _ after).reported reported met

theorem step_sound (adapter : flags.adapter = .memoizing cache inner)
    (reads : inner.ReadsFrom store cache) (writes : inner.WritesTo store cache) {course : Course}
    (h : course.Sound store cache) (step : Step) :
    (course.step flags store cache step).Sound store cache := by
  obtain ⟨scopes, w, stale⟩ := course
  obtain ⟨after, ends⟩ := step_ends adapter reads writes h step scopes
  dsimp only at ends
  unfold Sound Course.step
  dsimp only
  cases ran : step.run flags scopes w with
  | ok reply w' =>
    rw [ran] at ends
    obtain rfl := ends.fronted.held
    exact ends.known
  | error failure w' =>
    rw [ran] at ends
    obtain rfl := ends.fronted.held
    exact ends.known

theorem run_sound (adapter : flags.adapter = .memoizing cache inner)
    (reads : inner.ReadsFrom store cache) (writes : inner.WritesTo store cache)
    (steps : List Step) {course : Course} (h : course.Sound store cache) :
    (course.run flags store cache steps).Sound store cache := by
  induction steps generalizing course with
  | nil => exact h
  | cons step rest ih => exact ih (step_sound adapter reads writes h step)

/-- Only what the cache knows of is stale. -/
theorem run_knows (steps : List Step) {course : Course}
    (h : ∀ feature, course.stale feature → (course.world.cache cache).Knows feature) :
    ∀ feature, (course.run flags store cache steps).stale feature →
      ((course.run flags store cache steps).world.cache cache).Knows feature := by
  induction steps generalizing course with
  | nil => exact h
  | cons step rest ih =>
    refine ih fun feature stale => ?_
    unfold Course.step at stale ⊢
    dsimp only at stale ⊢
    cases ran : step.run flags course.scopes course.world with
    | ok reply w' =>
      rw [ran] at stale
      exact stale.1
    | error failure w' =>
      rw [ran] at stale
      exact stale.1

end Course

/-- The answer to a read, if it is answered. -/
def Adapter.answer? (adapter : Adapter) (r : Read α) (w : World) : Option α :=
  match adapter.read r w with
  | .ok a _ => some a
  | .error _ _ => none

theorem Adapter.ok_of_answer? {adapter : Adapter} {r : Read α} {w : World} {a : α}
    (h : adapter.answer? r w = some a) : ∃ w', adapter.read r w = .ok a w' := by
  unfold answer? at h
  split at h
  · rename_i b w' ran
    cases h
    exact ⟨w', ran⟩
  · cases h

namespace FlagSet

/-- Flags with a cache in front of a store in memory and its mirror. -/
def memoized (cache store name mirror mirrorName : String) (caught : List Category)
    (instrumenter : Instrumenter) (registry : Registry) (meaning : Meaning) : FlagSet :=
  ⟨.memoizing cache (.failover true caught (.memory store name) (.memory mirror mirrorName)),
    instrumenter, registry, meaning⟩

/-- After any steps, whatever is struck in the mirror, every read is answered, and answered as the
store behind the cache would at that moment, but for features that are stale. -/
theorem reads_trail (cache store name mirror mirrorName : String) (caught : List Category)
    (instrumenter : Instrumenter) (registry : Registry) (meaning : Meaning) (world : World)
    (apart : store ≠ mirror)
    (available : ∀ count operation, (world.store store).outage count operation = none)
    (distinct : (world.store store).records.Distinct) (calm : world.overlapping = false)
    (idle : world.cache cache = .idle) (steps : List Step) (r : Read α) :
    let flags := memoized cache store name mirror mirrorName caught instrumenter registry meaning
    let course := (Course.start world).run flags store cache steps
    ∃ a b w w', flags.adapter.read r course.world = .ok a w ∧
      (Adapter.memory store name).read r course.world = .ok b w' ∧
        r.Follows ⟨none, course.stale⟩ a b := by
  intro flags course
  have reads : Adapter.ReadsFrom _ store cache :=
    Adapter.readsFrom_failover store name cache caught (.memory mirror mirrorName)
  have sound : ((Course.start world).run flags store cache steps).Sound store cache :=
    Course.run_sound rfl reads
      (Adapter.writesTo_failover apart name mirrorName cache caught) steps
      (Course.sound_start available distinct calm idle)
  obtain ⟨hidden, shown, follows⟩ := sound.follows
  obtain ⟨a, w, ran, -, answer⟩ := sound.fronted.read_behind reads r
  obtain ⟨w', ran', -⟩ := sound.fronted.read name r
  refine ⟨a, _, w, w', ran, ran', ?_⟩
  have given := (answer _ follows).2
  cases r with
  | features =>
    show NameSet.AllBut _ _ _ []
    rw [← shown]
    exact given
  | get feature => exact given
  | getMulti features => exact given
  | getAll => exact given

/-- A world whose mirror can not be written to when something is enabled. -/
def parted : World :=
  (World.fresh ⟨fun _ => .int 0, 0, .int 0, [], []⟩).putStore "mirror"
    ⟨.empty, fun _ operation => if operation = "enable" then some (.outside .connection "down")
      else none, 0⟩

/-- Within a scope, a feature is looked at and then enabled in vain; what follows is taken next. -/
def afterVain (rest : List Step) : Course :=
  (Course.start parted).run
    (memoized "cache" "store" "memory" "mirror" "memory" [.connection] .none .standard
      fun _ _ => pure (.fresh .null))
    "store" "cache"
    ([.enter, .act "search" (.gateValue .boolean), .act "search" (.change .enable .null)] ++ rest)

theorem afterVain_knows (rest : List Step) : ∀ feature, (afterVain rest).stale feature →
    ((afterVain rest).world.cache "cache").Knows feature := by
  unfold afterVain
  exact Course.run_knows _ fun feature stale => stale.elim

/-- Once the scope has been left, nothing is stale, and the feature reads as in the store. -/
theorem reads_trail_left :
    (¬(afterVain [.leave]).stale "search") ∧
      ∃ a b w w', (memoized "cache" "store" "memory" "mirror" "memory" [.connection] .none .standard
          fun _ _ => pure (.fresh .null)).adapter.read (.get "search") (afterVain [.leave]).world =
          .ok a w ∧
        (Adapter.memory "store" "memory").read (.get "search") (afterVain [.leave]).world =
          .ok b w' ∧
        (Read.get "search").Follows ⟨none, (afterVain [.leave]).stale⟩ a b := by
  refine ⟨mt (afterVain_knows [.leave] "search") (by decide +kernel), ?_⟩
  have available : ∀ count operation, (parted.store "store").outage count operation = none := by
    rw [parted, World.store_putStore, if_neg (by decide)]
    exact fun _ _ => rfl
  have distinct : (parted.store "store").records.Distinct := by
    rw [parted, World.store_putStore, if_neg (by decide)]
    exact Table.distinct_empty
  exact reads_trail "cache" "store" "memory" "mirror" "memory" [.connection] .none .standard _
    parted (by decide) available distinct rfl rfl _ (.get "search")

/-- The feature is enabled in the store by then, and the cache has it as it was. -/
theorem behind_after_failure :
    ∃ a b w w', (memoized "cache" "store" "memory" "mirror" "memory" [.connection] .none .standard
        fun _ _ => pure (.fresh .null)).adapter.read (.get "search") (afterVain []).world =
        .ok a w ∧
      (Adapter.memory "store" "memory").read (.get "search") (afterVain []).world = .ok b w' ∧
      a.isEmpty = true ∧ b.isEmpty = false := by
  have cached : ((memoized "cache" "store" "memory" "mirror" "memory" [.connection] .none .standard
      fun _ _ => pure (.fresh .null)).adapter.answer? (.get "search") (afterVain []).world).map
      List.isEmpty = some true := by
    decide +kernel
  have stored : ((Adapter.memory "store" "memory").answer? (.get "search")
      (afterVain []).world).map List.isEmpty = some false := by
    decide +kernel
  obtain ⟨a, found, empty⟩ := Option.map_eq_some_iff.1 cached
  obtain ⟨b, found', filled⟩ := Option.map_eq_some_iff.1 stored
  obtain ⟨w, ran⟩ := Adapter.ok_of_answer? found
  obtain ⟨w', ran'⟩ := Adapter.ok_of_answer? found'
  exact ⟨a, b, w, w', ran, ran', empty, filled⟩

end FlagSet

end FeatureGates
