import FeatureGates.Proofs.Following

/-!
# Using a memoizing adapter directly

A session is a run of requests to a memoizing adapter in front of a store in
memory that nobody else writes: reads, writes, settings of memoizing, and
scopes of it, which may be nested. A request that fails leaves the session
where it got to.

Beside a session goes the lag of its cache, and every read is behind the
store by no more than that (`Session.reads_follow`). It is an induction over
the requests; that the cache follows the records is what each of them keeps
(`Session.step_sound`).

The lag is there to see: a feature that is enabled before it has been added
is missing from names that are cached by then (`Session.lags_after_enable`).
-/

namespace FeatureGates

variable {α : Type}

/-! ## Requests -/

inductive Request : Type 1 where
  | read {α : Type} (r : Read α)
  | write (feature : String) (w : Write)
  | memoize (active : Bool)
  | enter
  | leave

/-- Meets a request while some scopes are open; the scopes that are open then. -/
def Request.run (adapter : Adapter) (scopes : List Scope) : Request → Run (List Scope)
  | .read r => do
    let _ ← adapter.read r
    return scopes
  | .write feature w => do
    let _ ← adapter.write feature w
    return scopes
  | .memoize active => do
    if let some cache := adapter.cache? then Run.modifyCache cache (·.setActive active)
    return scopes
  | .enter => do return (← Scope.enter adapter) :: scopes
  | .leave =>
    match scopes with
    | scope :: outer => do
      scope.leave
      return outer
    | [] => return []

/-- The lag of a cache after a request that was met. -/
def Lag.afterRequest (lag : Lag) (before after : Records) : Request → Lag
  | .read r => lag.afterRead r
  | .write feature w => lag.afterWrite feature before after w
  | _ => lag

/-- A cache that is off is not behind. -/
def Lag.of (lag : Lag) (cache : Cache) : Lag := if cache.active then lag else none

/-! ## Sessions -/

structure Session where
  scopes : List Scope
  world : World
  lag : Lag

namespace Session

def start (world : World) : Session := ⟨[], world, .none⟩

def step (adapter : Adapter) (store cache : String) (session : Session) (request : Request) :
    Session :=
  let before := (session.world.store store).records
  match request.run adapter session.scopes session.world with
  | .ok scopes world =>
    ⟨scopes, world, (session.lag.afterRequest before (world.store store).records request).of
      (world.cache cache)⟩
  | .error _ world =>
    ⟨session.scopes, world, (session.lag.afterFailure before (world.store store).records).of
      (world.cache cache)⟩

def run (adapter : Adapter) (store cache : String) (session : Session)
    (requests : List Request) : Session :=
  requests.foldl (step adapter store cache) session

/-- The cache of a session is behind the records by no more than its lag. -/
structure Sound (store cache : String) (session : Session) : Prop where
  fronted : session.world.Fronted store cache (session.world.store store).records
  follows : (session.world.cache cache).Follows session.lag (session.world.store store).records

variable {store cache : String} {w : World} {records : Records} {scopes : List Scope} {lag : Lag}

/-- What is kept while the cache is active is kept: an idle cache follows anything. -/
theorem sound_of (fronted : w.Fronted store cache records)
    (follows : (w.cache cache).active = true → (w.cache cache).Follows lag records) :
    Sound store cache ⟨scopes, w, lag.of (w.cache cache)⟩ := by
  obtain rfl := fronted.held
  refine ⟨fronted, ?_⟩
  dsimp only
  unfold Lag.of
  cases on : (w.cache cache).active with
  | true =>
    rw [if_pos rfl]
    exact follows on
  | false =>
    rw [if_neg Bool.false_ne_true, fronted.tidy.idle on]
    exact Cache.Follows.of_idle _

theorem sound_start (available : ∀ count operation, (w.store store).outage count operation = none)
    (distinct : (w.store store).records.Distinct) (calm : w.overlapping = false)
    (idle : w.cache cache = .idle) : Sound store cache (start w) where
  fronted := ⟨rfl, available, calm, distinct, idle ▸ Cache.Tidy.of_idle⟩
  follows := by
    show (w.cache cache).Follows .none _
    rw [idle]
    exact Cache.Follows.of_idle _

/-- Switching a cache on or off keeps a session sound. -/
theorem sound_switch (fronted : w.Fronted store cache records)
    (follows : (w.cache cache).Follows lag records) (other : String) (active : Bool) :
    Sound store cache ⟨scopes, w.putCache other ((w.cache other).setActive active),
      lag.of ((w.putCache other ((w.cache other).setActive active)).cache cache)⟩ := by
  refine sound_of (fronted.switch other active) ?_
  rw [World.cache_putCache]
  intro on
  split
  · rename_i own
    subst own
    rw [if_pos rfl] at on
    exact follows.setActive on
  · exact follows

/-- Whatever is requested, the session is sound afterwards. -/
theorem step_sound (name : String) {session : Session} (h : session.Sound store cache)
    (request : Request) :
    (session.step (.memoizing cache (.memory store name)) store cache request).Sound
      store cache := by
  obtain ⟨scopes, w, lag⟩ := session
  obtain ⟨fronted, follows⟩ := h
  unfold step
  dsimp only at fronted follows ⊢
  cases request with
  | read r =>
    obtain ⟨a, w', ran, fronted', answer⟩ := fronted.read_memoizing name r
    simp only [Request.run, bind_apply, ran, pure_apply, fronted'.held]
    exact sound_of fronted' (answer lag follows).1
  | write feature write =>
    have ends := fronted.write_memoizing name feature write
    simp only [Request.run, bind_apply]
    cases filed : Filing.write feature write (w.store store).records with
    | ok made after =>
      simp only [filed] at ends
      obtain ⟨w', ran, fronted', known⟩ := ends
      simp only [ran, pure_apply, fronted'.held]
      refine sound_of fronted' fun on => ?_
      rw [known] at on ⊢
      rw [Cache.active_afterWrite] at on
      exact follows.afterWrite on filed
    | error failure after =>
      simp only [filed] at ends
      obtain ⟨w', ran, fronted', known⟩ := ends
      simp only [ran, fronted'.held]
      refine sound_of fronted' fun _ => ?_
      rw [known]
      exact follows.afterFailure after
  | memoize active => exact sound_switch fronted follows cache active
  | enter => exact sound_switch fronted follows cache true
  | leave =>
    cases scopes with
    | nil => exact sound_of fronted fun _ => follows
    | cons scope outer =>
      obtain ⟨cache?, wasActive⟩ := scope
      cases cache? with
      | none => exact sound_of fronted fun _ => follows
      | some other => exact sound_switch fronted follows other wasActive

theorem run_sound (name : String) (requests : List Request) {session : Session}
    (h : session.Sound store cache) :
    (session.run (.memoizing cache (.memory store name)) store cache requests).Sound
      store cache := by
  induction requests generalizing session with
  | nil => exact h
  | cons request rest ih => exact ih (step_sound name h request)

/-- After any requests, a memoizing adapter answers every read, and answers as
the store behind it would at that moment, but for what its cache lags behind. -/
theorem reads_follow (store name cache : String) (world : World)
    (available : ∀ count operation, (world.store store).outage count operation = none)
    (distinct : (world.store store).records.Distinct) (calm : world.overlapping = false)
    (idle : world.cache cache = .idle) (requests : List Request) (r : Read α) :
    let adapter := Adapter.memoizing cache (.memory store name)
    let session := (start world).run adapter store cache requests
    ∃ a b w w', adapter.read r session.world = .ok a w ∧
      (Adapter.memory store name).read r session.world = .ok b w' ∧ r.Follows session.lag a b := by
  intro adapter session
  have sound : session.Sound store cache :=
    run_sound name requests (sound_start available distinct calm idle)
  obtain ⟨a, w, ran, -, answer⟩ := sound.fronted.read_memoizing name r
  obtain ⟨w', ran', -⟩ := sound.fronted.read name r
  exact ⟨a, _, w, w', ran, ran', (answer _ sound.follows).2⟩

/-- In nested scopes a feature is disabled that has never been added. -/
theorem reads_follow_nested :
    let adapter := Adapter.memoizing "cache" (.memory "store" "memory")
    let session := (start (.fresh ⟨fun _ => .int 0, 0, .int 0, [], []⟩)).run adapter "store" "cache"
      [.enter, .read .getAll, .enter,
        .write "search" (.disable (.gate .boolean) (.wrapped (.boolean (.bool true)))), .leave]
    (session.lag.hidden = some ["search"] ∧ ∀ feature, ¬session.lag.stale feature) ∧
      ∃ a b w w', adapter.read .features session.world = .ok a w ∧
        (Adapter.memory "store" "memory").read .features session.world = .ok b w' ∧
          Read.features.Follows session.lag a b :=
  ⟨⟨rfl, fun _ => id⟩, reads_follow "store" "memory" "cache"
    (.fresh ⟨fun _ => .int 0, 0, .int 0, [], []⟩) (fun _ _ => rfl) Table.distinct_empty rfl rfl
    [.enter, .read .getAll, .enter,
      .write "search" (.disable (.gate .boolean) (.wrapped (.boolean (.bool true)))), .leave]
    .features⟩

/-- A feature that is enabled before it has been added is not among names that are cached. -/
theorem lags_after_enable :
    let adapter := Adapter.memoizing "cache" (.memory "store" "memory")
    let session := (start (.fresh ⟨fun _ => .int 0, 0, .int 0, [], []⟩)).run adapter "store" "cache"
      [.memoize true, .read .features,
        .write "search" (.enable (.gate .boolean) (.wrapped (.boolean (.bool true))))]
    NameSet.empty ≠ .ofList ["search"] ∧
      ∃ w w', adapter.read .features session.world = .ok .empty w ∧
        (Adapter.memory "store" "memory").read .features session.world =
          .ok (.ofList ["search"]) w' :=
  ⟨by decide, _, _, rfl, rfl⟩

end Session

end FeatureGates
