import FeatureGates.Proofs.Bare
import FeatureGates.Proofs.Lasting
import FeatureGates.Proofs.Outages

/-!
# Failing over to a mirror

A failover adapter that writes to both of its stores keeps them in step: a
write goes to the second store only after the first has made it, and a call
that is struck has touched nothing. The one thing a struck call may have done
by then is to make a feature exist; a gate is written after its feature has
been added, so it does not even that.

So both stores hold the state of one reference machine (`World.Mirrors`).
Every read is answered with it, by the second store if the first is struck.
A write ends like the machine's unless a call to the first store is struck;
then it fails with what struck (`World.Mirrors.meet_ends`). By induction over
the steps that is so in the middle of any run
(`FlagSet.mirrored_through_outages`).
-/

namespace FeatureGates

variable {α β : Type}

/-- A world in which two stores hold a machine's state. Failures of the first are caught by
readers, the second has none. -/
structure World.Mirrors (first second : String) (caught : List Category) (world : World)
    (state : ReferenceState) : Prop where
  held : (world.store first).records = state.records
  mirrored : (world.store second).records = state.records
  hidden (count : Nat) (operation : String) (failure : Failure) :
    (world.store first).outage count operation = some failure →
      Adapter.catches caught failure = true
  available (count : Nat) (operation : String) :
    (world.store second).outage count operation = none
  surroundings : world.surroundings.Alike state.surroundings
  groups : world.groups = state.groups
  oblivious : state.groups.Oblivious

namespace World.Mirrors

variable {first second : String} {caught : List Category} {w : World} {s : ReferenceState}

theorem grounded : Grounded (World.Mirrors first second caught) where
  unseeing v w s same h := by
    exact {
      held := same.store first ▸ h.held
      mirrored := same.store second ▸ h.mirrored
      hidden := same.store first ▸ h.hidden
      available := same.store second ▸ h.available
      surroundings := same.surroundings.symm.trans h.surroundings
      groups := same.groups ▸ h.groups
      oblivious := h.oblivious }
  groups h := h.groups
  surroundings h := h.surroundings
  goOn h alike := { h with surroundings := alike }

theorem steady : Steady first (World.Mirrors first second caught) where
  records h := h.held
  oblivious h := h.oblivious
  switch _ _ _ _ h := { h with }

/-- What the stores hold, and the rest of the world, make the machine's state. -/
theorem self (h : w.Mirrors first second caught s) :
    w.Mirrors first second caught ⟨(w.store first).records, w.surroundings, w.groups⟩ where
  held := rfl
  mirrored := h.mirrored.trans h.held.symm
  hidden := h.hidden
  available := h.available
  surroundings := .refl _
  groups := rfl
  oblivious := h.groups ▸ h.oblivious

theorem reached (h : w.Mirrors first second caught s) (store operation : String)
    (keys : List String) : (w.reached store operation keys).Mirrors first second caught s where
  held := (w.records_reached ..).trans h.held
  mirrored := (w.records_reached ..).trans h.mirrored
  hidden := by
    rw [World.outage_reached]
    exact h.hidden
  available := by
    rw [World.outage_reached]
    exact h.available
  surroundings := ⟨h.surroundings.stream, h.surroundings.drawn, h.surroundings.clock⟩
  groups := h.groups
  oblivious := h.oblivious

/-! ## Reads -/

/-- A read is answered with what both stores hold. -/
theorem responds (first second firstName secondName : String) (caught : List Category)
    (r : Read α) :
    Responds (.failover true caught (.memory first firstName) (.memory second secondName)) .lenient
      (World.Mirrors first second caught) (World.Mirrors first second caught) r := by
  intro w s h
  rw [Rules.read_of_found fun refuses => by cases refuses]
  simp only [Adapter.read, Adapter.readEither, Cache.tryCatch_apply, Adapter.readStore_apply]
  cases struck : (w.store first).outage (w.store first).calls r.name with
  | none =>
    refine ⟨?_, h.reached first r.name r.subjects⟩
    rw [h.held]
    exact Read.Alike.refl r _
  | some failure =>
    have told := h.reached first r.name r.subjects
    obtain ⟨w', warned, same⟩ := Run.sameFlags_warn
      "primary adapter failed, reading from secondary"
      [("operation", .text r.name), ("primary", .text (Adapter.memory first firstName).name),
        ("secondary", .text (Adapter.memory second secondName).name),
        ("error", .text failure.message)] (w.reached first r.name r.subjects)
    have told := grounded.unseeing _ w' s same told
    simp only [if_pos (h.hidden _ _ _ struck), bind_apply, warned, Adapter.readStore_apply,
      told.available]
    refine ⟨?_, told.reached second r.name r.subjects⟩
    rw [told.mirrored]
    exact Read.Alike.refl r _

/-! ## Writes -/

/-- The stores hold what has been written to both. -/
theorem of_written (h : w.Mirrors first second caught s) {w' : World} {after : Records}
    (held : (w'.store first).records = after) (mirrored : (w'.store second).records = after)
    (outage : (w'.store first).outage = (w.store first).outage)
    (outage' : (w'.store second).outage = (w.store second).outage)
    (groups : w'.groups = w.groups) (surroundings : w.surroundings.Alike w'.surroundings) :
    w'.Mirrors first second caught { s with records := after } where
  held := held
  mirrored := mirrored
  hidden := outage ▸ h.hidden
  available := outage' ▸ h.available
  surroundings := surroundings.symm.trans h.surroundings
  groups := groups.trans h.groups
  oblivious := h.oblivious

/-- A run is struck at the first store, and leaves the stores in step, or it ends in both stores as
something is filed. -/
def EndsInStep (first second : String) (caught : List Category) (w : World) (s : ReferenceState)
    (run : Run α) (filing : Filing α) : Prop :=
  (∃ failure w', run w = .error failure w' ∧ w.Suffers first [failure] w' ∧
    ∃ t, w'.Mirrors first second caught t) ∨
  Ends (fun a b w' after => a = b ∧ w.Suffers first [] w' ∧
      w'.Mirrors first second caught { s with records := after })
    (fun w' after => w.Suffers first [] w' ∧
      w'.Mirrors first second caught { s with records := after }) (run w) (filing s.records)

/-- Of two runs the second may be struck after the first has ended in both stores. -/
theorem EndsInStep.bind {run : Run α} {filing : Filing α} {f : α → Run β} {g : α → Filing β}
    (h : EndsInStep first second caught w s run filing)
    (next : ∀ a v after, filing s.records = .ok a after →
      v.Mirrors first second caught { s with records := after } →
        EndsInStep first second caught v { s with records := after } (f a) (g a)) :
    EndsInStep first second caught w s (run >>= f) (filing >>= g) := by
  unfold EndsInStep
  simp only [bind_apply]
  rcases h with ⟨failure, v, ran, struck⟩ | ends
  · rw [ran]
    exact .inl ⟨failure, v, rfl, struck⟩
  · rcases ends.elim with ⟨a, v, _, after, ran, filed, rfl, suffers, mirrors⟩ |
      ⟨failure, v, after, ran, filed, ended⟩
    · rw [ran, filed]
      rcases next a v after filed mirrors with ⟨failure, w', ran', suffers', struck⟩ | ends'
      · exact .inl ⟨failure, w', ran', suffers.trans suffers', struck⟩
      · refine .inr (ends'.mono ?_ ?_)
        · rintro _ _ _ _ ⟨same, suffers', held⟩
          exact ⟨same, suffers.trans suffers', held⟩
        · rintro _ _ ⟨suffers', held⟩
          exact ⟨suffers.trans suffers', held⟩
    · rw [ran, filed]
      exact .inr ⟨rfl, ended⟩

/-- The stores are in step after whatever has left the records of the first as they were. -/
theorem of_first (h : w.Mirrors first second caught s) (apart : first ≠ second) {v : World}
    (held : (v.store first).records = s.records)
    (outage : (v.store first).outage = (w.store first).outage)
    (aside : World.Elsewhere first w v) : v.Mirrors first second caught s := by
  have same := aside.stores second apart.symm
  refine h.of_written held ?_ outage ?_ aside.groups aside.surroundings
  · rw [same, h.mirrored]
  · rw [same]

/-- What has been made in the first store is made in the second. -/
theorem write_second (h : w.Mirrors first second caught s) (apart : first ≠ second)
    {feature : String} {write : Write} {v : World} {made : Bool} {after : Records}
    (filed : Filing.write feature write s.records = .ok made after)
    (aside : World.Elsewhere first w v) (written : Adapter.Unstruck first w v after) :
    ∃ v', Adapter.writeStore second feature write v = .ok made v' ∧ w.Suffers first [] v' ∧
      v'.Mirrors first second caught { s with records := after } := by
  have same := aside.stores second apart.symm
  have available : ∀ count operation, (v.store second).outage count operation = none := by
    rw [same]
    exact h.available
  have ends := Adapter.writeStore_ends second feature write v
  rw [same, h.mirrored, filed] at ends
  rcases ends with ⟨failure, v', -, suffers, -⟩ | ends
  · cases (World.strikes_of_available available v').symm.trans suffers.strikes
  · obtain ⟨_, v', ran, rfl, written'⟩ := ends.of_ok
    have aside' := (Adapter.keeps_writeStore_elsewhere second feature write v).of_ok
      (.refl second v) ran
    have suffers := written.suffers.trans (aside'.suffers first apart)
    refine ⟨v', ran, suffers, h.of_written ?_ written'.records suffers.outage ?_ ?_ ?_⟩
    · rw [aside'.stores first apart, written.records]
    · rw [written'.suffers.outage, same]
    · rw [aside'.groups, aside.groups]
    · exact aside.surroundings.trans aside'.surroundings

/-- A write to a feature that exists if it has to ends in both stores, if it leaves nothing behind
where it fails. -/
theorem write_ends (h : w.Mirrors first second caught s) (apart : first ≠ second)
    (firstName secondName feature : String) (write : Write)
    (suits : write.Suits feature s.records)
    (whole : ∀ failure after, Filing.write feature write s.records = .error failure after →
      after = s.records) :
    EndsInStep first second caught w s
      ((Adapter.failover true caught (.memory first firstName)
        (.memory second secondName)).write feature write)
      (Filing.write feature write) := by
  unfold EndsInStep
  have ends := Adapter.writeStore_ends first feature write w
  have elsewhere := Adapter.keeps_writeStore_elsewhere first feature write w
  rw [h.held] at ends
  simp only [Adapter.write, if_true, bind_apply]
  rcases ends with ⟨failure, v, ran, suffers, left⟩ | ends
  · have same : (v.store first).records = s.records := by
      rcases left with untouched | ⟨made, slot, thing, rfl⟩
      · exact untouched
      · exact made.trans (if_pos suits)
    have aside := elsewhere.of_error (.refl first w) ran
    rw [ran]
    exact .inl ⟨failure, v, rfl, suffers, s, h.of_first apart same suffers.outage aside⟩
  · rcases ends.elim with ⟨made, v, _, after, ran, filed, rfl, written⟩ |
      ⟨failure, v, after, ran, filed, written⟩
    · have aside := elsewhere.of_ok (.refl first w) ran
      obtain ⟨v', ran', suffers, mirrors⟩ := h.write_second apart filed aside written
      rw [ran, filed]
      simp only [ran']
      exact .inr ⟨rfl, suffers, mirrors⟩
    · obtain rfl := whole failure after filed
      have aside := elsewhere.of_error (.refl first w) ran
      rw [ran, filed]
      exact .inr ⟨rfl, written.suffers,
        h.of_first apart written.records written.suffers.outage aside⟩

/-- A demand is met in both stores as it is filed, unless it is struck. -/
theorem meet_ends (h : w.Mirrors first second caught s) (apart : first ≠ second)
    {flags : FlagSet} {firstName secondName : String}
    (adapter : flags.adapter =
      .failover true caught (.memory first firstName) (.memory second secondName))
    (feature : String) {demand : Demand} (named : demand.NamesMember) :
    EndsInStep first second caught w s (flags.meet feature demand) (demand.filing feature) := by
  have added : EndsInStep first second caught w s (flags.adapter.write feature .add)
      (Filing.write feature .add) := by
    rw [adapter]
    refine h.write_ends apart firstName secondName feature .add trivial ?_
    intro failure after failed
    rw [Filing.write_add] at failed
    cases failed
  cases demand with
  | add => exact added
  | remove =>
    rw [FlagSet.meet, adapter]
    exact h.write_ends apart firstName secondName feature .remove trivial nofun
  | clear =>
    rw [FlagSet.meet, adapter]
    exact h.write_ends apart firstName secondName feature .clear trivial nofun
  | change c gate thing =>
    refine added.bind fun new v after filed mirrors => ?_
    have there : after.contains feature = true := by
      rw [Filing.write_add] at filed
      cases filed
      exact s.records.contains_ensure_self feature
    rw [adapter]
    refine mirrors.write_ends apart firstName secondName feature (c.toWrite gate thing) ?_ ?_
    · cases c <;> exact there
    · intro failure left failed
      exact (Filing.gate_failed named failed).trans (if_pos there)

end World.Mirrors

/-! ## Steps -/

namespace FlagSet

variable {first second firstName secondName : String} {caught : List Category} {flags : FlagSet}
  {w : World} {s : ReferenceState}

/-- A step that demands something ends in both stores like the machine's, unless it is struck. -/
theorem demand_ends_mirrored (h : w.Mirrors first second caught s) (apart : first ≠ second)
    (adapter : flags.adapter =
      .failover true caught (.memory first firstName) (.memory second secondName))
    {step : Step} {feature : String} {demand : Demand}
    (demanded : step.demand? flags.registry = some (feature, .ok demand))
    (named : demand.NamesMember) (scopes : List Scope) :
    (∃ failure w', step.run flags scopes w = .error failure w' ∧ w.Suffers first [failure] w' ∧
      ∃ t, w'.Mirrors first second caught t) ∨
    Ends (fun reply reply' w' t => reply.1 = reply' ∧ w.Suffers first [] w' ∧
        w'.Mirrors first second caught t)
      (fun w' t => w.Suffers first [] w' ∧ w'.Mirrors first second caught t)
      (step.run flags scopes w) ((flags.reference .lenient).step step s) := by
  have unseeing := (World.Mirrors.grounded : Grounded (World.Mirrors first second caught)).unseeing
  have suffers {failures : List Failure} {v w' : World} (suffers : w.Suffers first failures v)
      (reported : World.Reported v w') : w.Suffers first failures w' := by
    exact suffers.congr (reported.flags.store first) reported.sightings
  have acted := demand_ends flags demanded scopes w
  rw [Reference.step_lenient (flags.reference .lenient) rfl demanded]
  rcases h.meet_ends apart adapter feature named with
    ⟨failure, v, met, struck, t, mirrors⟩ | ends
  · rw [met] at acted
    obtain ⟨w', ran, reported⟩ := acted.of_error
    exact .inl ⟨failure, w', ran, suffers struck reported, t,
      unseeing v w' t reported.flags mirrors⟩
  · refine .inr ?_
    rcases ends.elim with ⟨made, v, _, after, met, filed, rfl, unstruck, mirrors⟩ |
      ⟨failure, v, after, met, filed, unstruck, mirrors⟩
    · rw [met] at acted
      obtain ⟨reply, w', ran, rfl, reported⟩ := acted.of_ok
      rw [ran, filed]
      exact ⟨rfl, suffers unstruck reported, unseeing v w' _ reported.flags mirrors⟩
    · rw [met] at acted
      obtain ⟨w', ran, reported⟩ := acted.of_error
      rw [ran, filed]
      exact ⟨rfl, suffers unstruck reported, unseeing v w' _ reported.flags mirrors⟩

/-- Whatever accepted step is taken, the stores are in step afterwards. -/
theorem keeps_mirrors (apart : first ≠ second) (hm : flags.meaning.Oblivious)
    (adapter : flags.adapter =
      .failover true caught (.memory first firstName) (.memory second secondName))
    {step : Step} (accepted : step.IsAccepted flags.registry) (scopes : List Scope) :
    Keeps (fun w => ∃ s, w.Mirrors first second caught s) (step.run flags scopes) := by
  rintro w ⟨s, h⟩
  cases demanded : step.demand? flags.registry with
  | none =>
    have responds {α : Type} (r : Read α) : Responds flags.adapter .lenient
        (World.Mirrors first second caught) (World.Mirrors first second caught) r :=
      adapter ▸ World.Mirrors.responds first second firstName secondName caught r
    have ends := reading_ends flags World.Mirrors.grounded World.Mirrors.steady.oblivious
      (fun _ => World.Mirrors.steady.switch) hm demanded
      (fun r _ => responds r) (fun _ _ => responds _) id scopes h
    exact Ends.keeps (fun _ _ _ _ ends => ⟨_, ends.2⟩) (fun _ _ held => ⟨_, held⟩) ends
  | some demand =>
    obtain ⟨d, same, named⟩ := accepted demand.1 demand.2 demanded
    have demanded : step.demand? flags.registry = some (demand.1, .ok d) := same ▸ demanded
    rcases demand_ends_mirrored h apart adapter demanded named scopes with
      ⟨failure, w', ran, -, mirrors⟩ | ends
    · rw [ran]
      exact mirrors
    · exact Ends.keeps (fun _ _ _ _ ends => ⟨_, ends.2.2⟩) (fun _ _ ended => ⟨_, ended.2⟩) ends

/-- Flags behind a failover adapter that writes to both of its stores. -/
def mirrored (first second firstName secondName : String) (caught : List Category)
    (instrumenter : Instrumenter) (registry : Registry) (meaning : Meaning) : FlagSet :=
  ⟨.failover true caught (.memory first firstName) (.memory second secondName), instrumenter,
    registry, meaning⟩

/-- In any run of accepted steps, through whatever outages of the first store, the stores stay in
step; every step that demands nothing ends as their common records make it end; and one that
demands something does too, unless calls to the first store are struck: then it fails, with the
one failure that struck. -/
theorem mirrored_through_outages (first second firstName secondName : String)
    (caught : List Category) (instrumenter : Instrumenter) (registry : Registry)
    (meaning : Meaning) (world : World) (apart : first ≠ second)
    (equal : (world.store second).records = (world.store first).records)
    (hidden : ∀ count operation failure,
      (world.store first).outage count operation = some failure →
        Adapter.catches caught failure = true)
    (available : ∀ count operation, (world.store second).outage count operation = none)
    (hm : meaning.Oblivious) (hg : world.groups.Oblivious) (steps : List Step)
    (accepted : ∀ step ∈ steps, step.IsAccepted registry) :
    let flags := mirrored first second firstName secondName caught instrumenter registry meaning
    let scopes := (flags.after steps [] world).1
    let now := (flags.after steps [] world).2
    let state : ReferenceState := ⟨(now.store first).records, now.surroundings, now.groups⟩
    (now.store second).records = (now.store first).records ∧
      (∀ step : Step, step.demand? registry = none →
        Ends (fun reply reply' w s => reply.1.Alike reply' ∧ (w.store first).records = s.records)
          (fun w s => (w.store first).records = s.records)
          (step.run flags scopes now) ((flags.reference .lenient).step step state)) ∧
      ∀ (step : Step) (feature : String) (demand : Demand),
        step.demand? registry = some (feature, .ok demand) → demand.NamesMember →
          (∃ failure w, step.run flags scopes now = .error failure w ∧
            now.strikes w first = [failure]) ∨
          Ends (fun reply reply' w s => reply.1 = reply' ∧
              (w.store first).records = s.records ∧ now.strikes w first = [])
            (fun w s => (w.store first).records = s.records ∧ now.strikes w first = [])
            (step.run flags scopes now) ((flags.reference .lenient).step step state) := by
  intro flags scopes now state
  have start : world.Mirrors first second caught
      ⟨(world.store first).records, world.surroundings, world.groups⟩ :=
    ⟨rfl, equal, hidden, available, .refl _, rfl, hg⟩
  have adapter : flags.adapter =
      .failover true caught (.memory first firstName) (.memory second secondName) := rfl
  have kept : ∃ s, (flags.after steps [] world).2.Mirrors first second caught s :=
    after_keeps (fun step mem => keeps_mirrors apart hm adapter (accepted step mem)) []
      ⟨_, start⟩
  obtain ⟨s, mirrors⟩ := kept
  have held : now.Mirrors first second caught state := mirrors.self
  refine ⟨held.mirrored, fun step reading => ?_, fun step feature demand demanded named => ?_⟩
  · have responds {α : Type} (r : Read α) : Responds flags.adapter .lenient
        (World.Mirrors first second caught) (World.Mirrors first second caught) r :=
      World.Mirrors.responds first second firstName secondName caught r
    refine (reading_ends flags World.Mirrors.grounded World.Mirrors.steady.oblivious
      (fun _ => World.Mirrors.steady.switch) hm reading
      (fun r _ => responds r) (fun _ _ => responds _) id scopes held).mono ?_ ?_
    · rintro reply reply' w s ⟨alike, held⟩
      exact ⟨alike, held.held⟩
    · rintro w s held
      exact held.held
  · rcases demand_ends_mirrored held apart adapter demanded named scopes with
      ⟨failure, w, ran, struck, -⟩ | ends
    · exact .inl ⟨failure, w, ran, struck.strikes⟩
    · refine .inr (ends.mono ?_ ?_)
      · rintro reply reply' w s ⟨same, unstruck, held⟩
        exact ⟨same, held.held, unstruck.strikes⟩
      · rintro w s ⟨unstruck, held⟩
        exact ⟨held.held, unstruck.strikes⟩

/-- Two empty stores; the fourth call to the first is struck. -/
def shaken : World :=
  (World.fresh ⟨fun _ => .int 0, 0, .int 0, [], []⟩).putStore "primary"
    ⟨.empty, fun count _ => if count = 3 then some (.outside .connection "down") else none, 0⟩

/-- What is done to both while one is shaken: an actor is enabled, and then everyone. -/
def enablings : List Step :=
  [.act "search" (.changeActor .enable (.actor (.text "User;1") .null)),
    .act "search" (.change .enable .null)]

/-- The second enabling is struck in its second call, and the stores are in step. -/
theorem mirrored_through_outages_shaken :
    let flags := mirrored "primary" "secondary" "memory" "memory" [.connection] .none .standard
      fun _ _ => pure (.fresh .null)
    (shaken.strikes (flags.after enablings [] shaken).2 "primary").length = 1 ∧
      ((flags.after enablings [] shaken).2.store "secondary").records =
        ((flags.after enablings [] shaken).2.store "primary").records := by
  have primary : shaken.store "primary" = ⟨.empty,
      fun count _ => if count = 3 then some (.outside .connection "down") else none, 0⟩ := by
    rw [shaken, World.store_putStore, if_pos rfl]
  have secondary : shaken.store "secondary" = .fresh := by
    rw [shaken, World.store_putStore, if_neg (by decide)]
    rfl
  have equal : (shaken.store "secondary").records = (shaken.store "primary").records := by
    rw [primary, secondary]
    rfl
  have hidden : ∀ count operation failure, (shaken.store "primary").outage count operation =
      some failure → Adapter.catches [.connection] failure = true := by
    rw [primary]
    rintro count operation failure struck
    dsimp only at struck
    split at struck
    · cases struck
      rfl
    · cases struck
  have available : ∀ count operation, (shaken.store "secondary").outage count operation = none := by
    rw [secondary]
    exact fun _ _ => rfl
  have accepted : ∀ step ∈ enablings, Step.IsAccepted .standard step := by
    rintro step mem feature demand demanded
    rcases List.mem_pair.1 mem with rfl | rfl
    · cases demanded
      exact ⟨_, rfl, fun _ => ⟨_, rfl⟩⟩
    · cases demanded
      exact ⟨_, rfl, nofun⟩
  refine ⟨by decide +kernel, ?_⟩
  exact (mirrored_through_outages "primary" "secondary" "memory" "memory" [.connection] .none
    .standard (fun _ _ => pure (.fresh .null)) shaken (by decide) equal hidden available
    (fun _ _ _ => Check.Oblivious.pure _) (fun _ _ found => nomatch found) enablings accepted).1

end FlagSet

end FeatureGates
