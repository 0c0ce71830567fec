import FeatureGates.Proofs.DirectUse
import FeatureGates.Proofs.Outages

/-!
# One trip to the store per feature

While its cache is active, a memoizing adapter calls the store behind it at
most once for a read, and only for what the cache needs (`Cache.needs?`): of
several features those that are not known, and nothing at all if everything
has been loaded. A call that is struck changes nothing in the cache.

So in the course of a scope the cache recalls exactly what answered calls have
brought (`Cache.Recalls`), and that says which calls there are: none names a
feature that an earlier one has brought, and a feature that none has brought
is asked for by the next read of it (`Session.loads_once`). The induction is
over the requests of the scope, which may open and close scopes within it.
-/

namespace FeatureGates

variable {α : Type}

/-! ## Calls to a store -/

/-- A call to a store: its operation, the features it names, and the failure
that struck it, if one did. -/
structure StoreCall where
  operation : String
  keys : List String
  struck : Option Failure

/-- An answered call has brought the values of a feature: it names the feature, or
asks for everything that there is. -/
def StoreCall.Brings (records : Records) (call : StoreCall) (feature : String) : Prop :=
  call.struck = none ∧
    (feature ∈ call.keys ∨ call.operation = Read.getAll.name ∧ records.contains feature = true)

/-- The operation and the keys of a call to the store. -/
def Sighting.callTo (store : String) : Sighting → Option (String × List String)
  | .call name operation keys => if name = store then some (operation, keys) else none
  | .note _ _ => none

theorem Sighting.operationAt_eq (store : String) (s : Sighting) :
    s.operationAt store = (s.callTo store).map (·.1) := by
  cases s with
  | note tag value => rfl
  | call name operation keys => simp only [operationAt, callTo]; split <;> rfl

namespace World

/-- The calls that a store has had since, in order. -/
def callsTo (before after : World) (store : String) : List StoreCall :=
  (((after.surroundings.sightings.drop before.surroundings.sightings.length).filterMap
    (·.callTo store)).zipIdx (before.store store).calls).map fun call =>
      ⟨call.1.1, call.1.2, (before.store store).outage call.2 call.1.1⟩

theorem callsTo_self (w : World) (store : String) : w.callsTo w store = [] := by
  simp [callsTo]

variable {start w : World} {store : String}

/-- One more call. -/
theorem callsTo_reached {failures : List Failure} (h : start.Suffers store failures w)
    (operation : String) (keys : List String) :
    start.callsTo (w.reached store operation keys) store = start.callsTo w store ++
      [⟨operation, keys, (w.store store).outage (w.store store).calls operation⟩] := by
  obtain ⟨since, seen⟩ := h.seen
  have counted := h.counted
  have seen' : (w.reached store operation keys).surroundings.sightings =
      start.surroundings.sightings ++ (since ++ [.call store operation keys]) := by
    rw [← List.append_assoc, ← seen]
    rfl
  rw [callsSince_of_seen seen] at counted
  simp only [Sighting.operationAt_eq, ← List.map_filterMap, List.length_map] at counted
  have one : [Sighting.call store operation keys].filterMap (·.callTo store) =
      [(operation, keys)] := by
    simp [Sighting.callTo]
  simp only [callsTo, seen, seen', List.drop_left, List.filterMap_append, one,
    List.zipIdx_append, List.zipIdx_singleton, List.map_append, List.map_cons, List.map_nil,
    ← counted, h.outage]

end World

/-! ## What a cache needs -/

namespace Cache

/-- The read that has to be answered before the cache can answer one, if it cannot yet. -/
def needs? (cache : Cache) : {α : Type} → Read α → Option (Read α)
  | _, .features => if cache.names.isSome then none else some .features
  | _, .get feature => if cache.values.contains feature then none else some (.get feature)
  | _, .getMulti features =>
    if (cache.unknown features).isEmpty then none else some (.getMulti (cache.unknown features))
  | _, .getAll => if cache.everything?.isSome then none else some .getAll

/-- Takes over the answer to a read. -/
def keep (cache : Cache) : {α : Type} → Read α → α → Cache
  | _, .features, names => cache.putNames names
  | _, .get feature, raw => cache.putValues feature raw
  | _, .getMulti _, raw => cache.putAllValues raw
  | _, .getAll, raw => cache.putEverything raw

theorem mem_unknown {cache : Cache} {features : List String} {feature : String} :
    feature ∈ cache.unknown features ↔
      feature ∈ features ∧ cache.values.contains feature = false := by
  simp [unknown]

/-- Only what is not known is asked for, and all of that. -/
theorem mem_needs {cache : Cache} {r needed : Read α} (h : cache.needs? r = some needed)
    (feature : String) :
    feature ∈ needed.subjects ↔
      feature ∈ r.subjects ∧ cache.values.contains feature = false := by
  cases r with
  | features => simp only [needs?] at h; split at h <;> cases h; simp [Read.subjects]
  | getAll => simp only [needs?] at h; split at h <;> cases h; simp [Read.subjects]
  | get name =>
    simp only [needs?] at h
    split at h
    · cases h
    · rename_i unknown
      cases h
      simp only [Read.subjects, List.mem_singleton]
      refine ⟨fun same => ⟨same, ?_⟩, fun both => both.1⟩
      rw [same]
      simpa using unknown
  | getMulti names =>
    simp only [needs?] at h
    split at h
    · cases h
    · cases h
      exact mem_unknown

/-- Nothing is needed only if all the features are known. -/
theorem known_of_needs {cache : Cache} {r : Read α} (h : cache.needs? r = none) :
    ∀ feature ∈ r.subjects, cache.values.contains feature = true := by
  intro feature mem
  cases r with
  | features => cases mem
  | getAll => cases mem
  | get name =>
    rw [List.mem_singleton.1 mem]
    simpa [needs?] using h
  | getMulti names =>
    have none : cache.unknown names = [] := by simpa [needs?] using h
    cases known : cache.values.contains feature with
    | true => rfl
    | false =>
      have mem' : feature ∈ cache.unknown names := mem_unknown.2 ⟨mem, known⟩
      rw [none] at mem'
      cases mem'

end Cache

/-! ## Reads through an active cache -/

/-- The run makes one call to the store, for a read that is needed. If the call is struck the
run fails with that and the cache is as before; if not, the answer to the read is kept. -/
def World.Fetches (store cache : String) (w : World) {β : Type} (needed : Read β)
    (run : Run α) : Prop :=
  match (w.store store).outage (w.store store).calls needed.name with
  | some failure => run w = .error failure (w.reached store needed.name needed.subjects)
  | none => ∃ a, run w = .ok a ((w.reached store needed.name needed.subjects).putCache cache
      ((w.cache cache).keep needed ((w.store store).records.read needed)))

namespace Cache

variable {store cache : String} {w : World} (tidy : (w.cache cache).failed = [])
  (calm : w.overlapping = false)

include tidy calm

theorem fetches_consult {load : Option String} {known : Cache → Option α}
    {keep : Cache → α → Cache} {needed : Read α}
    (kept : ∀ c a, keep c a = Cache.keep c needed a) (unknown : known (w.cache cache) = none) :
    w.Fetches store cache needed
      (consult cache load known keep (Adapter.readStore store needed)) := by
  have ran := Adapter.readStore_apply store needed w
  unfold World.Fetches
  cases struck : (w.store store).outage (w.store store).calls needed.name with
  | some failure =>
    rw [struck] at ran
    exact consult_failed unknown tidy calm ran
  | none =>
    rw [struck] at ran
    refine ⟨(w.store store).records.read needed, ?_⟩
    rw [consult_loaded unknown tidy ran, kept]
    rfl

omit tidy calm in
theorem fetches_consultEverything (unknown : (w.cache cache).everything? = none) :
    w.Fetches store cache .getAll
      (consultEverything cache (Adapter.readStore store .getAll)) := by
  have ran := Adapter.readStore_apply store .getAll w
  unfold World.Fetches
  simp only [consultEverything, bind_apply, get_apply, unknown]
  cases struck : (w.store store).outage (w.store store).calls Read.getAll.name with
  | some failure => simp only [ran, struck]
  | none =>
    simp only [ran, struck, Run.modifyCache, modify_apply, pure_apply]
    exact ⟨_, rfl⟩

omit tidy calm in
theorem fetches_consultMany {features : List String}
    (unknown : (w.cache cache).unknown features ≠ []) :
    w.Fetches store cache (.getMulti ((w.cache cache).unknown features))
      (consultMany cache features (fun missing => Adapter.readStore store (.getMulti missing))
        fun feature => Adapter.readStore store (.get feature)) := by
  have ran := Adapter.readStore_apply store (.getMulti ((w.cache cache).unknown features)) w
  unfold World.Fetches
  simp only [consultMany, bind_apply, get_apply, List.isEmpty_iff, unknown, if_false]
  cases struck : (w.store store).outage (w.store store).calls
      (Read.getMulti ((w.cache cache).unknown features)).name with
  | some failure => simp only [ran, struck]
  | none =>
    -- the call has brought all that was not known, so nothing is left to be loaded one by one
    let needed := Read.getMulti ((w.cache cache).unknown features)
    let reached := w.reached store needed.name needed.subjects
    let loaded := (reached.cache cache).putAllValues ((w.store store).records.read needed)
    have all (feature : String) (mem : feature ∈ features) :
        ((reached.putCache cache loaded).cache cache).values.contains feature = true := by
      rw [World.cache_putCache, if_pos rfl]
      exact contains_loaded mem
    have given := mapM_known cache (fun feature => Adapter.readStore store (.get feature)) _ all
    simp only [ran, struck, Run.modifyCache, modify_apply, pure_apply]
    simp only [needed, reached, loaded] at given
    simp only [given]
    exact ⟨_, rfl⟩

end Cache

/-- A read is answered without a call if the cache needs nothing, and otherwise makes one call, for
what the cache needs. -/
theorem Adapter.read_memoized (store name : String) {cache : String} {w : World}
    (on : (w.cache cache).active = true)
    (tidy : (w.cache cache).failed = []) (calm : w.overlapping = false)
    (r : Read α) :
    match (w.cache cache).needs? r with
    | none => ∃ a, (Adapter.memoizing cache (.memory store name)).read r w = .ok a w
    | some needed =>
      w.Fetches store cache needed ((Adapter.memoizing cache (.memory store name)).read r) := by
  have through : (Adapter.memoizing cache (.memory store name)).read r w =
      Cache.consultRead cache (Adapter.memory store name).read r w := by
    simp only [Adapter.read, Cache.read, bind_apply, get_apply, on, if_true]
  unfold World.Fetches
  rw [through]
  cases r with
  | features =>
    cases known : (w.cache cache).names with
    | some names =>
      simp only [Cache.needs?, known, Option.isSome_some, if_true]
      exact ⟨names, Cache.consult_known known⟩
    | none =>
      simp only [Cache.needs?, known, Option.isSome_none, Bool.false_eq_true, if_false]
      exact Cache.fetches_consult tidy calm (fun _ _ => rfl) known
  | get feature =>
    cases known : (w.cache cache).values.find? feature with
    | some raw =>
      simp only [Cache.needs?, Table.contains, known, Option.isSome_some, if_true]
      have given : Cache.consultValues cache feature (Adapter.readStore store (.get feature)) w =
        .ok raw w := Cache.consult_known known
      exact ⟨raw, given⟩
    | none =>
      simp only [Cache.needs?, Table.contains, known, Option.isSome_none, Bool.false_eq_true,
        if_false]
      have fetched : w.Fetches store cache (.get feature)
          (Cache.consultValues cache feature (Adapter.readStore store (.get feature))) :=
        Cache.fetches_consult tidy calm (fun _ _ => rfl) known
      exact fetched
  | getMulti features =>
    by_cases unknown : (w.cache cache).unknown features = []
    · simp only [Cache.needs?, unknown, List.isEmpty_nil, if_true]
      have none : (w.cache cache).needs? (.getMulti features) = none := by
        simp [Cache.needs?, unknown]
      have all : ∀ feature ∈ features, _ := Cache.known_of_needs none
      have given := Cache.mapM_known cache (fun feature => Adapter.readStore store (.get feature))
        w all
      simp only [Cache.consultRead, Cache.consultMany, bind_apply, get_apply, unknown,
        List.isEmpty_nil, if_true, pure_apply, Adapter.read, given]
      exact ⟨_, rfl⟩
    · simp only [Cache.needs?, List.isEmpty_iff, unknown, if_false]
      exact Cache.fetches_consultMany unknown
  | getAll =>
    cases known : (w.cache cache).everything? with
    | some raw =>
      simp only [Cache.needs?, known, Option.isSome_some, if_true, Cache.consultRead,
        Cache.consultEverything, bind_apply, get_apply]
      exact ⟨raw, rfl⟩
    | none =>
      simp only [Cache.needs?, known, Option.isSome_none, Bool.false_eq_true, if_false]
      exact Cache.fetches_consultEverything known

/-! ## What a cache recalls -/

/-- What a cache knows is what answered calls have brought. -/
structure Cache.Recalls (cache : Cache) (records : Records) (calls : List StoreCall) : Prop where
  active : cache.active = true
  failed : cache.failed = []
  named : cache.complete = true → cache.names.isSome = true
  values (feature : String) : cache.values.contains feature = true ↔
    ∃ call ∈ calls, call.Brings records feature
  complete : cache.complete = true ↔
    ∃ call ∈ calls, call.struck = none ∧ call.operation = Read.getAll.name

namespace Cache.Recalls

variable {cache : Cache} {records : Records} {calls : List StoreCall}

/-- A cache that has just been switched on recalls nothing. -/
theorem of_empty : (Cache.idle.setActive true).Recalls records [] where
  active := rfl
  failed := rfl
  named := nofun
  values feature := by simp [Cache.idle, setActive, Table.contains, Table.find?_empty]
  complete := by simp [Cache.idle, setActive]

theorem isSome_everything (h : cache.Recalls records calls) :
    cache.everything?.isSome = true ↔ cache.complete = true := by
  unfold everything?
  cases complete : cache.complete with
  | false => simp
  | true => simp [h.named complete]

/-- After one more call, what is known is what was known and what that call has brought. -/
theorem append (h : cache.Recalls records calls) {after : Cache} {call : StoreCall}
    (active : after.active = cache.active) (failed : after.failed = cache.failed)
    (named : after.complete = true → after.names.isSome = true)
    (values : ∀ feature, after.values.contains feature = true ↔
      cache.values.contains feature = true ∨ call.Brings records feature)
    (complete : after.complete = true ↔
      cache.complete = true ∨ call.struck = none ∧ call.operation = Read.getAll.name) :
    after.Recalls records (calls ++ [call]) where
  active := active.trans h.active
  failed := failed.trans h.failed
  named := named
  values feature := by
    rw [values, h.values]
    simp [or_and_right, exists_or]
  complete := by
    rw [complete, h.complete]
    simp [or_and_right, exists_or]

/-- A call that was struck has brought nothing. -/
theorem struck (h : cache.Recalls records calls) {call : StoreCall} {failure : Failure}
    (struck : call.struck = some failure) : cache.Recalls records (calls ++ [call]) :=
  h.append rfl rfl h.named (fun feature => by simp [StoreCall.Brings, struck]) (by simp [struck])

/-- What an answered call has brought is kept. -/
theorem keep (h : cache.Recalls records calls) (r : Read α) :
    (cache.keep r (records.read r)).Recalls records
      (calls ++ [⟨r.name, r.subjects, none⟩]) := by
  have names (feature : String) :
      feature ∈ records.readAll.rows.map (·.1) ↔ records.contains feature = true := by
    rw [← Table.mem_names, ← Table.names_map fun _ cells => Records.readCells cells, Table.names,
      NameSet.mem_ofList]
    rfl
  cases r with
  | features =>
    refine h.append rfl rfl (fun _ => rfl) (fun feature => ?_) ?_
    · simp [Cache.keep, putNames, StoreCall.Brings, Read.name, Read.subjects]
    · simp [Cache.keep, putNames, Read.name]
  | get feature =>
    refine h.append rfl rfl h.named (fun other => ?_) ?_
    · simp [Cache.keep, putValues, StoreCall.Brings, Read.name, Read.subjects,
        Table.contains_put, or_comm]
    · simp [Cache.keep, putValues, Read.name]
  | getMulti features =>
    refine h.append rfl rfl h.named (fun other => ?_) ?_
    · have brought : other ∈ (records.read (.getMulti features)).rows.map (·.1) ↔
          other ∈ features := by
        constructor
        · intro mem
          obtain ⟨row, held, rfl⟩ := List.mem_map.1 mem
          obtain ⟨feature, inside, rfl⟩ := List.mem_map.1 (Table.mem_of_mem_ofRows held)
          exact inside
        · intro mem
          refine Table.mem_names_ofRows ?_
          simpa [List.map_map, Function.comp_def] using mem
      show (Cache.putAllValues _ _).values.contains other = true ↔ _
      rw [putAllValues, Table.contains_putAll, brought]
      simp [StoreCall.Brings, Read.name, Read.subjects, or_comm]
    · simp [Cache.keep, putAllValues, Read.name]
  | getAll =>
    refine h.append rfl rfl (fun _ => rfl) (fun other => ?_) ?_
    · show (Cache.putAllValues _ _).values.contains other = true ↔ _
      rw [putAllValues, Table.contains_putAll]
      simp only [StoreCall.Brings, Read.subjects, List.not_mem_nil, false_or, true_and, or_comm]
      rw [← names]
      rfl
    · simp [Cache.keep, putEverything, Read.name]

end Cache.Recalls

/-! ## Within a scope -/

/-- A world within a scope, as far as it has come since its start. -/
structure World.Visited (store cache : String) (start w : World) : Prop where
  records : (w.store store).records = (start.store store).records
  suffers : ∃ failures, start.Suffers store failures w
  calm : w.overlapping = false
  recalls : (w.cache cache).Recalls (start.store store).records (start.callsTo w store)
  /-- No call names a feature that an earlier one has brought. -/
  fresh : (start.callsTo w store).Pairwise fun earlier later =>
    ∀ feature, earlier.Brings (start.store store).records feature → feature ∉ later.keys

namespace World.Visited

variable {store cache : String} {start w : World}

/-- A call for what the cache needs names nothing that has been brought. -/
theorem fresh_append (h : Visited store cache start w) {r needed : Read α}
    (needs : (w.cache cache).needs? r = some needed) {call : StoreCall}
    (keys : call.keys = needed.subjects) :
    (start.callsTo w store ++ [call]).Pairwise fun earlier later =>
      ∀ feature, earlier.Brings (start.store store).records feature → feature ∉ later.keys := by
  refine List.pairwise_append.2 ⟨h.fresh, List.pairwise_singleton _ _, ?_⟩
  intro earlier mem later last feature brings named
  rw [List.mem_singleton.1 last, keys] at named
  have unknown := ((Cache.mem_needs needs feature).1 named).2
  rw [(h.recalls.values feature).2 ⟨earlier, mem, brings⟩] at unknown
  cases unknown

/-- Whatever becomes of a read, it leaves a world within the scope. -/
theorem keeps_read (name : String) (start : World) (r : Read α) :
    Keeps (Visited store cache start) ((Adapter.memoizing cache (.memory store name)).read r) := by
  intro w h
  have ran := Adapter.read_memoized store name h.recalls.active h.recalls.failed h.calm r
  cases needs : (w.cache cache).needs? r with
  | none =>
    simp only [needs] at ran
    obtain ⟨a, ran⟩ := ran
    rw [ran]
    exact h
  | some needed =>
    simp only [needs, World.Fetches] at ran
    obtain ⟨failures, suffers⟩ := h.suffers
    have called := callsTo_reached suffers needed.name needed.subjects
    have records := (w.records_reached store needed.name needed.subjects store).trans h.records
    have suffers := suffers.trans (w.suffers_reached store needed.name needed.subjects)
    have fresh := called ▸ h.fresh_append needs rfl
    cases struck : (w.store store).outage (w.store store).calls needed.name with
    | some failure =>
      simp only [struck] at ran called
      rw [ran]
      exact ⟨records, ⟨_, suffers⟩, h.calm, called ▸ h.recalls.struck rfl, fresh⟩
    | none =>
      simp only [struck] at ran called
      obtain ⟨a, ran⟩ := ran
      rw [ran]
      refine ⟨records, ⟨_, suffers.congr rfl rfl⟩, h.calm, ?_, fresh⟩
      rw [World.cache_putCache, if_pos rfl, h.records]
      exact called ▸ h.recalls.keep needed

/-- A scope within an active one has nothing to switch. -/
theorem setActive (h : Visited store cache start w) :
    Visited store cache start (w.putCache cache ((w.cache cache).setActive true)) where
  records := h.records
  suffers := h.suffers.imp fun _ suffers => suffers.congr rfl rfl
  calm := h.calm
  recalls := by
    have same : (w.cache cache).setActive true = w.cache cache := by
      rw [Cache.setActive, if_pos rfl, ← h.recalls.active]
    rw [World.cache_putCache, if_pos rfl, same]
    exact h.recalls
  fresh := h.fresh

/-- A scope that finds the cache off starts with an empty one. -/
theorem of_idle (calm : w.overlapping = false) (idle : w.cache cache = .idle) :
    Visited store cache w (w.putCache cache ((w.cache cache).setActive true)) := by
  have none : w.callsTo (w.putCache cache ((w.cache cache).setActive true)) store = [] :=
    w.callsTo_self store
  refine ⟨rfl, ⟨[], (Suffers.refl store w).congr rfl rfl⟩, calm, ?_, ?_⟩
  · rw [none, World.cache_putCache, if_pos rfl, idle]
    exact .of_empty
  · rw [none]
    exact List.Pairwise.nil

end World.Visited

/-- How many scopes are open within a scope after some of its requests, if these are reads, scopes
within it and nothing else. -/
def Request.innerScopes : Nat → List Request → Option Nat
  | inner, [] => some inner
  | inner, .read _ :: rest => innerScopes inner rest
  | inner, .enter :: rest => innerScopes (inner + 1) rest
  | inner + 1, .leave :: rest => innerScopes inner rest
  | _, _ => none

namespace Session

/-- A session within a scope that found the cache off, with some scopes open within that. -/
structure Within (store cache : String) (start : World) (inner : Nat) (session : Session) :
    Prop where
  visited : World.Visited store cache start session.world
  scopes : session.scopes = List.replicate inner ⟨some cache, true⟩ ++ [⟨some cache, false⟩]

variable {store cache name : String} {start : World} {inner : Nat} {session : Session}

theorem within_enter {world : World} (calm : world.overlapping = false)
    (idle : world.cache cache = .idle) :
    ((Session.start world).step (.memoizing cache (.memory store name)) store cache
      .enter).Within store cache world 0 := by
  refine ⟨.of_idle calm idle, ?_⟩
  show [(⟨some cache, (world.cache cache).active⟩ : Scope)] = _
  rw [idle]
  rfl

namespace Within

theorem read (h : session.Within store cache start inner) (r : Read α) :
    (session.step (.memoizing cache (.memory store name)) store cache (.read r)).Within store cache
      start inner := by
  have kept := World.Visited.keeps_read name start r session.world h.visited
  simp only [step, Request.run, bind_apply]
  cases ran : (Adapter.memoizing cache (.memory store name)).read r session.world with
  | ok a w =>
    rw [ran] at kept
    exact ⟨kept, h.scopes⟩
  | error failure w =>
    rw [ran] at kept
    exact ⟨kept, h.scopes⟩

theorem enter (h : session.Within store cache start inner) :
    (session.step (.memoizing cache (.memory store name)) store cache .enter).Within store cache
      start (inner + 1) := by
  refine ⟨h.visited.setActive, ?_⟩
  show (⟨some cache, (session.world.cache cache).active⟩ : Scope) :: session.scopes = _
  rw [h.visited.recalls.active, h.scopes]
  rfl

theorem leave (h : session.Within store cache start (inner + 1)) :
    (session.step (.memoizing cache (.memory store name)) store cache .leave).Within store cache
      start inner := by
  obtain ⟨scopes, world, lag⟩ := session
  obtain ⟨visited, rfl⟩ := h
  exact ⟨visited.setActive, rfl⟩

/-- Reads and scopes within a scope leave the session within it. -/
theorem run {requests : List Request} {inner' : Nat} (h : session.Within store cache start inner)
    (within : Request.innerScopes inner requests = some inner') :
    (session.run (.memoizing cache (.memory store name)) store cache requests).Within store cache
      start inner' := by
  induction requests generalizing inner session with
  | nil =>
    cases within
    exact h
  | cons request rest ih =>
    cases request with
    | read r => exact ih (h.read r) within
    | enter => exact ih h.enter within
    | leave =>
      cases inner with
      | zero => cases within
      | succ inner => exact ih h.leave within
    | write feature w => cases within
    | memoize active => cases within

/-- Leaving all the scopes leaves the cache empty. -/
theorem idle_of_leave (h : session.Within store cache start inner) :
    (session.run (.memoizing cache (.memory store name)) store cache
      (List.replicate (inner + 1) .leave)).world.cache cache = .idle := by
  induction inner generalizing session with
  | zero =>
    obtain ⟨scopes, world, lag⟩ := session
    obtain ⟨visited, rfl⟩ := h
    show (world.putCache cache .idle).cache cache = _
    rw [World.cache_putCache, if_pos rfl]
  | succ inner ih => exact ih h.leave

end Within

/-- What loading is like in a session that has come some way within a scope entered in `world`.
What is said of a read is said of it as the next request, whatever was requested before. -/
structure LoadsOnce (adapter : Adapter) (store cache : String) (world : World) (inner : Nat)
    (session : Session) : Prop where
  /-- A feature is named in at most one answered call. -/
  once (feature : String) : (world.callsTo session.world store).countP
    (fun call => call.struck = none ∧ feature ∈ call.keys) ≤ 1
  /-- After an answered call for everything, no call names a feature that there is. -/
  none_after_all (before : List StoreCall) (call : StoreCall) (after : List StoreCall) :
    world.callsTo session.world store = before ++ call :: after →
    call.struck = none → call.operation = Read.getAll.name →
    ∀ feature, (world.store store).records.contains feature = true →
      ∀ later ∈ after, feature ∉ later.keys
  /-- A read that fails has made one call, which was struck, for features that have no entry in
  the cache then; and the cache is as before. -/
  nothing_kept {α : Type} (r : Read α) (failure : Failure) (w : World) :
    adapter.read r session.world = .error failure w →
    w.cache cache = session.world.cache cache ∧
      ∃ call, session.world.callsTo w store = [call] ∧ call.struck = some failure ∧
        ∀ feature ∈ call.keys, (w.cache cache).values.contains feature = false
  /-- A feature has an entry in the cache just if a call has brought it. -/
  entries (feature : String) : (session.world.cache cache).values.contains feature = true ↔
    ∃ call ∈ world.callsTo session.world store, call.Brings (world.store store).records feature
  /-- A feature that has no entry in the cache is asked for by a read that names it. -/
  asked_again {α : Type} (r : Read α) (feature : String) : feature ∈ r.subjects →
    (session.world.cache cache).values.contains feature = false →
    ∃ call ∈ session.world.callsTo (session.step adapter store cache (.read r)).world store,
      feature ∈ call.keys
  /-- Everything, if no call has brought it, is asked for by a read of everything. -/
  all_asked_again :
    (∀ call ∈ world.callsTo session.world store,
      ¬(call.struck = none ∧ call.operation = Read.getAll.name)) →
    ∃ call ∈ session.world.callsTo (session.step adapter store cache (.read .getAll)).world store,
      call.operation = Read.getAll.name
  /-- After the scopes that are open have been left, the cache is empty. -/
  nothing_left : (session.run adapter store cache
    (List.replicate (inner + 1) .leave)).world.cache cache = .idle

/-- What no two members have at once at most one has. -/
theorem countP_le_one {β : Type} {p : β → Bool} {l : List β}
    (h : l.Pairwise fun a b => ¬(p a = true ∧ p b = true)) : l.countP p ≤ 1 := by
  induction l with
  | nil => simp
  | cons a rest ih =>
    obtain ⟨first, others⟩ := List.pairwise_cons.1 h
    rw [List.countP_cons]
    split
    · rename_i own
      have none : rest.countP p = 0 := by
        rw [List.countP_eq_zero]
        intro b mem other
        exact first b mem ⟨own, other⟩
      omega
    · exact ih others

/-- What the next read does to the calls, if the cache needs something for it. -/
theorem Within.calls_of_needs (h : session.Within store cache start inner) (name : String)
    {r needed : Read α} (needs : (session.world.cache cache).needs? r = some needed) :
    session.world.callsTo
        (session.step (.memoizing cache (.memory store name)) store cache (.read r)).world store =
      [⟨needed.name, needed.subjects, (session.world.store store).outage
        (session.world.store store).calls needed.name⟩] := by
  have called := World.callsTo_reached (World.Suffers.refl store session.world) needed.name
    needed.subjects
  rw [World.callsTo_self, List.nil_append] at called
  have ran := Adapter.read_memoized store name h.visited.recalls.active h.visited.recalls.failed
    h.visited.calm r
  simp only [needs, World.Fetches] at ran
  simp only [step, Request.run, bind_apply]
  cases struck : (session.world.store store).outage (session.world.store store).calls
      needed.name with
  | some failure =>
    rw [struck] at ran called
    rw [ran]
    exact called
  | none =>
    rw [struck] at ran called
    obtain ⟨a, ran⟩ := ran
    rw [ran]
    exact called

/-- A session within a scope loads once. -/
theorem Within.loadsOnce (h : session.Within store cache start inner) (name : String) :
    session.LoadsOnce (.memoizing cache (.memory store name)) store cache start inner where
  once feature := by
    refine countP_le_one (h.visited.fresh.imp ?_)
    rintro earlier later fresh ⟨first, second⟩
    simp only [decide_eq_true_eq] at first second
    exact fresh feature ⟨first.1, .inl first.2⟩ second.2
  none_after_all before call after split answered all feature there later mem := by
    have fresh := h.visited.fresh
    rw [split] at fresh
    have following := (List.pairwise_cons.1 (List.pairwise_append.1 fresh).2.1).1
    exact following later mem feature ⟨answered, .inr ⟨all, there⟩⟩
  nothing_kept r failure w failed := by
    have ran := Adapter.read_memoized store name h.visited.recalls.active h.visited.recalls.failed
      h.visited.calm r
    cases needs : (session.world.cache cache).needs? r with
    | none =>
      simp only [needs, failed] at ran
      obtain ⟨a, ran⟩ := ran
      cases ran
    | some needed =>
      have called := h.calls_of_needs name needs
      simp only [needs, World.Fetches, failed] at ran
      simp only [step, Request.run, bind_apply, failed] at called
      cases struck : (session.world.store store).outage (session.world.store store).calls
          needed.name with
      | none =>
        rw [struck] at ran
        obtain ⟨a, ran⟩ := ran
        cases ran
      | some other =>
        rw [struck] at ran called
        cases ran
        refine ⟨rfl, _, called, rfl, ?_⟩
        intro feature mem
        exact ((Cache.mem_needs needs feature).1 mem).2
  entries := h.visited.recalls.values
  asked_again r feature mem unknown := by
    cases needs : (session.world.cache cache).needs? r with
    | none =>
      rw [Cache.known_of_needs needs feature mem] at unknown
      cases unknown
    | some needed =>
      rw [h.calls_of_needs name needs]
      exact ⟨_, List.mem_singleton_self _, (Cache.mem_needs needs feature).2 ⟨mem, unknown⟩⟩
  all_asked_again unbrought := by
    have unknown : (session.world.cache cache).everything?.isSome = false := by
      rw [← Bool.not_eq_true, h.visited.recalls.isSome_everything, h.visited.recalls.complete]
      rintro ⟨call, made, brings⟩
      exact unbrought call made brings
    have needs : (session.world.cache cache).needs? .getAll = some .getAll := by
      simp [Cache.needs?, unknown]
    rw [h.calls_of_needs name needs]
    exact ⟨_, List.mem_singleton_self _, rfl⟩
  nothing_left := h.idle_of_leave

/-- However many reads there are in a scope of memoizing, and whichever of the calls to the store
are struck, every feature is loaded once. -/
theorem loads_once (store name cache : String) (world : World) (calm : world.overlapping = false)
    (idle : world.cache cache = .idle) {visits : List Request} {inner : Nat}
    (within : Request.innerScopes 0 visits = some inner) :
    let adapter := Adapter.memoizing cache (.memory store name)
    ((Session.start world).run adapter store cache (.enter :: visits)).LoadsOnce
      adapter store cache world inner := by
  intro adapter
  have entered : ((Session.start world).step adapter store cache .enter).Within store cache world
      0 := within_enter calm idle
  exact (entered.run within).loadsOnce name

/-- The first of four calls is struck. -/
theorem loads_once_flaky :
    let world := (World.fresh ⟨fun _ => .int 0, 0, .int 0, [], []⟩).putStore "store"
      ⟨⟨[("search", .empty)]⟩,
        fun count _ => if count = 0 then some (.outside .connection "unavailable") else none, 0⟩
    let adapter := Adapter.memoizing "cache" (.memory "store" "memory")
    let visits := [.read (.getMulti ["search", "stats"]), .enter, .read (.get "stats"),
      .read .getAll, .leave, .read (.getMulti ["search", "beta", "stats"])]
    let session := (Session.start world).run adapter "store" "cache" (.enter :: visits)
    (Request.innerScopes 0 visits = some 0 ∧ world.callsTo session.world "store" =
      [⟨"get_multi", ["search", "stats"], some (.outside .connection "unavailable")⟩,
        ⟨"get", ["stats"], none⟩, ⟨"get_all", [], none⟩, ⟨"get_multi", ["beta"], none⟩]) ∧
      session.LoadsOnce adapter "store" "cache" world 0 :=
  ⟨⟨rfl, rfl⟩, loads_once "store" "memory" "cache" _ rfl rfl rfl⟩

end Session

end FeatureGates
