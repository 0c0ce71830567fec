import FeatureGates.Proofs.Bare
import FeatureGates.Proofs.Lasting
import FeatureGates.Proofs.Outages

/-!
# Writing to a remote store first

A dual-writing adapter writes to its remote store and then to the one at
home, which alone is read. Either call may be struck, and a store may refuse
a write by itself, so after an outage the two may differ. What never happens
is that home has something that remote was not given before.

What became of a store between two worlds is told by an account: the
dealings with it, in order (`World.Deals`). The accounts of the two stores
over any run of accepted steps fit together (`World.Followed`). For a single
write that is a matter of its two calls (`Adapter.dualWrite_ends`); accounts
of consecutive times are appended.

That stores which started equal stay equal needs more: a call that is struck
has touched nothing, but disabling a truth value takes a second call, and by
then the feature exists. It exists anyway, in both stores, because flags add
a feature before they write one of its gates. And home refuses what remote
has accepted only if the two differ.
-/

namespace FeatureGates

variable {α : Type}

/-! ## Accounts -/

/-- One dealing with a store. A write may be refused because its call is struck. -/
inductive Dealing where
  | read
  | applied (feature : String) (write : Write) (made : Bool)
  | refused (struck : Bool) (feature : String) (write : Write) (failure : Failure)

namespace Dealing

/-- The write that was applied, if one was. -/
def applied? : Dealing → Option (String × Write)
  | .applied feature write _ => some (feature, write)
  | _ => none

/-- The write that was tried, if one was. -/
def tried? : Dealing → Option (String × Write)
  | .read => none
  | .applied feature write _ => some (feature, write)
  | .refused _ feature write _ => some (feature, write)

def isStruck : Dealing → Bool
  | .refused struck _ _ _ => struck
  | _ => false

end Dealing

/-- An account of the dealings with a store while one world became another. Stores count their
calls, so none can be left out. -/
inductive World.Deals (store : String) : World → List Dealing → World → Prop
  | idle {v w : World} : w.store store = v.store store → Deals store v [] w
  | read {α : Type} {v w : World} {r : Read α} {outcome : Except Failure α} :
      (Adapter.readStore store r).outcome v = .ok outcome w → Deals store v [.read] w
  | applied {v w : World} {feature : String} {write : Write} {made : Bool} :
      Adapter.writeStore store feature write v = .ok made w →
        Deals store v [.applied feature write made] w
  | refused {v w : World} {feature : String} {write : Write} {failure : Failure} (struck : Bool) :
      Adapter.writeStore store feature write v = .error failure w →
        v.Suffers store (if struck then [failure] else []) w →
          Deals store v [.refused struck feature write failure] w
  | append {u v w : World} {earlier later : List Dealing} :
      Deals store u earlier v → Deals store v later w → Deals store u (earlier ++ later) w

namespace World.Deals

variable {store other : String} {u v w : World} {dealings : List Dealing}

theorem after_idle (h : v.store store = u.store store) (deals : v.Deals store dealings w) :
    u.Deals store dealings w := append (idle h) deals

theorem then_idle (deals : u.Deals store dealings v) (h : w.store store = v.store store) :
    u.Deals store dealings w := List.append_nil dealings ▸ append deals (idle h)

/-- Nothing was asked of a store while only another was dealt with. -/
theorem elsewhere (apart : store ≠ other) (h : Elsewhere other v w) : v.Deals store [] w :=
  idle (h.stores store apart)

end World.Deals

/-- A write that leaves no trace in the records if it fails. -/
structure Write.Traceless (feature : String) (write : Write) (records : Records) : Prop where
  suits : write.Suits feature records
  filed {failure : Failure} {after : Records} :
    Filing.write feature write records = .error failure after → after = records

namespace Adapter

/-- A store applies a write, or refuses it; if it is not struck, that is as the records are. -/
theorem writeStore_deals (store feature : String) (write : Write) (w : World) :
    match writeStore store feature write w with
    | .ok made w' => w.Deals store [.applied feature write made] w' ∧
        Filing.write feature write (w.store store).records = .ok made (w'.store store).records
    | .error failure w' => ∃ struck, w.Deals store [.refused struck feature write failure] w' ∧
        (struck = false → Filing.write feature write (w.store store).records =
          .error failure (w'.store store).records) ∧
        (write.Traceless feature (w.store store).records →
          (w'.store store).records = (w.store store).records) := by
  rcases writeStore_ends store feature write w with ⟨failure, w', ran, suffers, left⟩ | ends
  · rw [ran]
    refine ⟨true, .refused true ran suffers, nofun, fun traceless => ?_⟩
    rcases left with same | ⟨same, slot, thing, rfl⟩
    · exact same
    · exact same.trans (if_pos traceless.suits)
  · rcases ends.elim with ⟨made, w', _, after, ran, filed, rfl, written⟩ |
      ⟨failure, w', after, ran, filed, written⟩
    · obtain rfl := written.records
      rw [ran]
      exact ⟨.applied ran, filed⟩
    · obtain rfl := written.records
      rw [ran]
      exact ⟨false, .refused false ran written.suffers, fun _ => filed, fun traceless =>
        traceless.filed filed⟩

end Adapter

/-! ## Two stores -/

/-- How a write ends that goes to both stores: both have applied it, and it is answered as the
remote one answered; or remote has refused it, and home was not asked; or remote has applied it, and
home has refused. -/
def World.EndsInBoth (home remote feature : String) (write : Write) (w : World) :
    EStateM.Result Failure World Bool → Prop
  | .ok made w' => w.Deals remote [.applied feature write made] w' ∧
      ∃ made', w.Deals home [.applied feature write made'] w'
  | .error failure w' =>
    (∃ struck, w.Deals remote [.refused struck feature write failure] w' ∧
      w.Deals home [] w') ∨
    ∃ made struck, w.Deals remote [.applied feature write made] w' ∧
      w.Deals home [.refused struck feature write failure] w'

/-- Accounts of two stores that fit: home has applied no more than remote, in the order of remote;
remote was written only, and only what had been asked for; and the stores are equal if they were
and no write has been struck at home. -/
structure World.Followed (home remote : String) (asked : String × Write → Prop) (v : World)
    (atHome atRemote : List Dealing) (w : World) : Prop where
  dealtHome : v.Deals home atHome w
  dealtRemote : v.Deals remote atRemote w
  behind : (atHome.filterMap Dealing.applied?).Sublist (atRemote.filterMap Dealing.applied?)
  written : ∀ dealing ∈ atRemote, ∃ write, dealing.tried? = some write ∧ asked write
  equal : (v.store home).records = (v.store remote).records →
    (∀ dealing ∈ atHome, dealing.isStruck = false) →
      (w.store home).records = (w.store remote).records

namespace World.Followed

variable {home remote : String} {asked : String × Write → Prop} {u v w : World}
  {atHome atHome' atRemote atRemote' : List Dealing}

theorem idle (sameHome : w.store home = v.store home)
    (sameRemote : w.store remote = v.store remote) :
    v.Followed home remote asked [] [] w where
  dealtHome := .idle sameHome
  dealtRemote := .idle sameRemote
  behind := .slnil
  written := fun _ mem => absurd mem List.not_mem_nil
  equal before _ := by rw [sameHome, sameRemote, before]

theorem append (h : u.Followed home remote asked atHome atRemote v)
    (h' : v.Followed home remote asked atHome' atRemote' w) :
    u.Followed home remote asked (atHome ++ atHome') (atRemote ++ atRemote') w where
  dealtHome := .append h.dealtHome h'.dealtHome
  dealtRemote := .append h.dealtRemote h'.dealtRemote
  behind := by
    rw [List.filterMap_append, List.filterMap_append]
    exact h.behind.append h'.behind
  written dealing mem := (List.mem_append.1 mem).elim (h.written dealing) (h'.written dealing)
  equal before quiet := by
    have between := h.equal before fun dealing mem => quiet dealing (List.mem_append_left _ mem)
    exact h'.equal between fun dealing mem => quiet dealing (List.mem_append_right _ mem)

end World.Followed

/-- There are accounts that fit. -/
def World.Follows (home remote : String) (asked : String × Write → Prop) (v w : World) : Prop :=
  ∃ atHome atRemote, v.Followed home remote asked atHome atRemote w

namespace Adapter

variable {home remote : String}

/-- A write returns what remote has answered if both stores have applied it, and fails otherwise. -/
theorem dualWrite_ends (apart : home ≠ remote) (homeName remoteName feature : String)
    (write : Write) (w : World) :
    w.EndsInBoth home remote feature write
      ((dualWrite (.memory home homeName) (.memory remote remoteName)).write feature write w) := by
  have far := writeStore_deals remote feature write w
  have aside := keeps_writeStore_elsewhere remote feature write w
  simp only [Adapter.write, bind_apply]
  cases ran : writeStore remote feature write w with
  | error failure v =>
    rw [ran] at far
    obtain ⟨struck, deals, -⟩ := far
    have untouched := World.Deals.elsewhere apart (aside.of_error (.refl remote w) ran)
    exact .inl ⟨struck, deals, untouched⟩
  | ok made v =>
    rw [ran] at far
    have same := (aside.of_ok (.refl remote w) ran).stores home apart
    have near := writeStore_deals home feature write v
    have aside' := keeps_writeStore_elsewhere home feature write v
    dsimp only
    cases ran' : writeStore home feature write v with
    | error failure w' =>
      rw [ran'] at near
      obtain ⟨struck, deals, -⟩ := near
      have quiet := (aside'.of_error (.refl home v) ran').stores remote apart.symm
      exact .inr ⟨made, struck, far.1.then_idle quiet, deals.after_idle same⟩
    | ok made' w' =>
      rw [ran'] at near
      have quiet := (aside'.of_ok (.refl home v) ran').stores remote apart.symm
      exact ⟨far.1.then_idle quiet, made', near.1.after_idle same⟩

end Adapter

namespace World.Follows

variable {home remote : String} {asked : String × Write → Prop} {u v w : World}

theorem trans (h : u.Follows home remote asked v) (h' : v.Follows home remote asked w) :
    u.Follows home remote asked w := by
  obtain ⟨_, _, followed⟩ := h
  obtain ⟨_, _, followed'⟩ := h'
  exact ⟨_, _, followed.append followed'⟩

/-- What leaves both stores alone leaves home behind remote. -/
theorem idle (h : u.Follows home remote asked v) (sameHome : w.store home = v.store home)
    (sameRemote : w.store remote = v.store remote) : u.Follows home remote asked w :=
  h.trans ⟨_, _, .idle sameHome sameRemote⟩

theorem lasting (home remote : String) (asked : String × Write → Prop) (u : World) :
    Lasting (u.Follows home remote asked) where
  surroundings _ h := h.idle rfl rfl
  events _ h := h.idle rfl rfl

/-- A read is one dealing with home, and none with remote. -/
theorem keeps_readStore (apart : home ≠ remote) (r : Read α) :
    Keeps (u.Follows home remote asked) (Adapter.readStore home r) := by
  intro w h
  have aside : Keeps (World.Elsewhere home w) (Adapter.readStore home r) :=
    (World.Elsewhere.stored home w).keeps_readStore r
  have records : Keeps (fun v => (v.store home).records = (w.store home).records)
      (Adapter.readStore home r) := by
    intro v same
    have kept := (v.records_reached home r.name r.subjects home).trans same
    rw [Adapter.readStore_apply]
    cases (v.store home).outage (v.store home).calls r.name <;> exact kept
  have followed {v : World} {outcome : Except Failure α}
      (read : (Adapter.readStore home r).outcome w = .ok outcome v)
      (same : (v.store home).records = (w.store home).records)
      (quiet : World.Elsewhere home w v) : u.Follows home remote asked v := by
    have untouched := quiet.stores remote apart.symm
    refine h.trans ⟨[.read], [], ?_⟩
    exact {
      dealtHome := .read read
      dealtRemote := .idle untouched
      behind := .slnil
      written := fun _ mem => absurd mem List.not_mem_nil
      equal := fun before _ => by rw [same, untouched, before] }
  cases ran : Adapter.readStore home r w with
  | ok answer v =>
    have read : (Adapter.readStore home r).outcome w = .ok (.ok answer) v := by
      simp only [Run.outcome, ran]
    exact followed read (records.of_ok rfl ran) (aside.of_ok (.refl home w) ran)
  | error failure v =>
    have read : (Adapter.readStore home r).outcome w = .ok (.error failure) v := by
      simp only [Run.outcome, ran]
    exact followed read (records.of_error rfl ran) (aside.of_error (.refl home w) ran)

/-- A write that was asked for leaves home behind remote, if remote would not bear a trace of its
failure; and if it is answered, it has been filed remotely. -/
theorem write (h : u.Follows home remote asked w) (apart : home ≠ remote)
    {adapter : Adapter} {homeName remoteName : String}
    (dual : adapter = .dualWrite (.memory home homeName) (.memory remote remoteName))
    {feature : String} {write : Write} (ask : asked (feature, write))
    (traceless : write.Traceless feature (w.store remote).records) :
    match adapter.write feature write w with
    | .ok made w' => u.Follows home remote asked w' ∧
        Filing.write feature write (w.store remote).records = .ok made (w'.store remote).records
    | .error _ w' => u.Follows home remote asked w' := by
  have far := Adapter.writeStore_deals remote feature write w
  have aside := Adapter.keeps_writeStore_elsewhere remote feature write w
  have own {dealing : Dealing} (tried : dealing.tried? = some (feature, write)) :
      ∀ other ∈ [dealing], ∃ write, other.tried? = some write ∧ asked write := by
    rintro other mem
    obtain rfl := List.mem_singleton.1 mem
    exact ⟨_, tried, ask⟩
  simp only [dual, Adapter.write, bind_apply]
  cases ran : Adapter.writeStore remote feature write w with
  | error failure v =>
    rw [ran] at far
    obtain ⟨struck, deals, -, unchanged⟩ := far
    have same := (aside.of_error (.refl remote w) ran).stores home apart
    refine h.trans ⟨[], [.refused struck feature write failure], ?_⟩
    exact {
      dealtHome := .idle same
      dealtRemote := deals
      behind := .slnil
      written := own rfl
      equal := fun before _ => by rw [same, unchanged traceless, before] }
  | ok made v =>
    rw [ran] at far
    obtain ⟨deals, filed⟩ := far
    have same := (aside.of_ok (.refl remote w) ran).stores home apart
    have near := Adapter.writeStore_deals home feature write v
    have aside' := Adapter.keeps_writeStore_elsewhere home feature write v
    rw [same] at near
    dsimp only
    cases ran' : Adapter.writeStore home feature write v with
    | error failure w' =>
      rw [ran'] at near
      obtain ⟨struck, deals', refused, -⟩ := near
      have quiet := (aside'.of_error (.refl home v) ran').stores remote apart.symm
      refine h.trans ⟨[.refused struck feature write failure], [.applied feature write made], ?_⟩
      exact {
        dealtHome := deals'.after_idle same
        dealtRemote := deals.then_idle quiet
        behind := .cons _ .slnil
        written := own rfl
        equal := fun before unstruck => by
          -- equal stores would not have answered otherwise
          have refused := refused (unstruck _ (List.mem_singleton_self _))
          rw [before, filed] at refused
          cases refused }
    | ok made' w' =>
      rw [ran'] at near
      obtain ⟨deals', filed'⟩ := near
      have quiet := (aside'.of_ok (.refl home v) ran').stores remote apart.symm
      refine ⟨h.trans ⟨[.applied feature write made'], [.applied feature write made], ?_⟩, ?_⟩
      · exact {
          dealtHome := deals'.after_idle same
          dealtRemote := deals.then_idle quiet
          behind := .refl _
          written := own rfl
          equal := fun before _ => by
            rw [before, filed] at filed'
            rw [quiet]
            exact (EStateM.Result.ok.inj filed').2.symm }
      · rw [quiet]
        exact filed

end World.Follows

/-! ## Runs of steps -/

/-- One of the steps takes a write of a feature. -/
def Step.Ask (registry : Registry) (steps : List Step) (request : String × Write) : Prop :=
  ∃ step ∈ steps, ∃ demand, step.demand? registry = some (request.1, .ok demand) ∧
    request.2 ∈ demand.writes

namespace FlagSet

variable {home remote homeName remoteName : String} {flags : FlagSet}
  {asked : String × Write → Prop}

/-- A demand leaves home behind remote, if its writes were asked for. -/
theorem keeps_follows_meet (apart : home ≠ remote)
    (adapter : flags.adapter = .dualWrite (.memory home homeName) (.memory remote remoteName))
    (feature : String) {demand : Demand} (named : demand.NamesMember)
    (ask : ∀ write ∈ demand.writes, asked (feature, write)) (u : World) :
    Keeps (u.Follows home remote asked) (flags.meet feature demand) := by
  have whole {write : Write} (mem : write ∈ demand.writes)
      (traceless : ∀ records, write.Traceless feature records) :
      Keeps (u.Follows home remote asked) (flags.adapter.write feature write) := by
    intro w h
    have written := h.write apart adapter (ask write mem) (traceless _)
    cases ran : flags.adapter.write feature write w with
    | ok made w' =>
      rw [ran] at written
      exact written.1
    | error failure w' =>
      rw [ran] at written
      exact written
  have add (records : Records) : Write.Traceless feature .add records := by
    refine ⟨trivial, fun failed => ?_⟩
    rw [Filing.write_add] at failed
    cases failed
  cases demand with
  | add => exact whole List.mem_cons_self add
  | remove => exact whole List.mem_cons_self fun _ => ⟨trivial, nofun⟩
  | clear => exact whole List.mem_cons_self fun _ => ⟨trivial, nofun⟩
  | change c gate thing =>
    intro w h
    have added := h.write apart adapter (ask .add List.mem_cons_self) (add _)
    simp only [meet, writeGate, bind_apply]
    cases ran : flags.adapter.write feature .add w with
    | error failure v =>
      rw [ran] at added
      exact added
    | ok new v =>
      rw [ran] at added
      obtain ⟨follows, filed⟩ := added
      have there : (v.store remote).records.contains feature = true := by
        rw [Filing.write_add] at filed
        rw [← (EStateM.Result.ok.inj filed).2]
        exact Records.contains_ensure_self _ feature
      have traceless : (c.toWrite gate thing).Traceless feature (v.store remote).records := by
        refine ⟨?_, fun failed => (Filing.gate_failed named failed).trans (if_pos there)⟩
        cases c <;> exact there
      have changed := follows.write apart adapter
        (ask _ (List.mem_cons_of_mem _ List.mem_cons_self)) traceless
      dsimp only
      cases ran' : flags.adapter.write feature (c.toWrite gate thing) v with
      | ok made w' =>
        rw [ran'] at changed
        exact changed.1
      | error failure w' =>
        rw [ran'] at changed
        exact changed

/-- An accepted step leaves home behind remote. -/
theorem keeps_follows (apart : home ≠ remote)
    (adapter : flags.adapter = .dualWrite (.memory home homeName) (.memory remote remoteName))
    {step : Step} (accepted : step.IsAccepted flags.registry)
    (ask : ∀ feature demand, step.demand? flags.registry = some (feature, .ok demand) →
      ∀ write ∈ demand.writes, asked (feature, write)) (u : World) (scopes : List Scope) :
    Keeps (u.Follows home remote asked) (step.run flags scopes) := by
  refine keeps_step (World.Follows.lasting home remote asked u) (fun r => ?_)
    (fun _ _ _ h => h.idle rfl rfl) (fun feature demand demanded => ?_) scopes
  · rw [adapter]
    exact World.Follows.keeps_readStore apart r
  · obtain ⟨_, same, named⟩ := accepted feature (.ok demand) demanded
    cases same
    exact keeps_follows_meet apart adapter feature named (ask feature demand demanded) u

/-- A read of home does nothing to remote, not even a call. -/
theorem keeps_remote_read (apart : home ≠ remote)
    (adapter : flags.adapter = .dualWrite (.memory home homeName) (.memory remote remoteName))
    (r : Read α) (store : Store) : Keeps (fun w => w.store remote = store)
      (flags.adapter.read r) := by
  have stored : World.Stored home (fun _ => True) (fun w => w.store remote = store) := {
    records := fun _ => trivial
    reached := fun operation keys same => by
      rw [World.store_reached, if_neg apart.symm, same]
    putRecords := fun same _ => by
      rw [World.store_putStore, if_neg apart.symm, same] }
  rw [adapter]
  exact stored.keeps_readStore r

/-- Flags that are written to a remote store first, and read at home. -/
def dualWriting (home remote homeName remoteName : String) (instrumenter : Instrumenter)
    (registry : Registry) (meaning : Meaning) : FlagSet :=
  ⟨.dualWrite (.memory home homeName) (.memory remote remoteName), instrumenter, registry,
    meaning⟩

/-- Over any run of accepted steps, through whatever outages of both stores, the writes applied at
home are some of those applied remotely, in their order, and the stores are equal if they started
so and no write has been struck at home. A write is answered just if both stores have applied it,
as the remote one has answered; and neither a read nor a step that demands nothing does anything to
remote. -/
theorem home_never_ahead (home remote homeName remoteName : String) (instrumenter : Instrumenter)
    (registry : Registry) (meaning : Meaning) (world : World) (apart : home ≠ remote)
    (steps : List Step) (accepted : ∀ step ∈ steps, step.IsAccepted registry) :
    let flags := dualWriting home remote homeName remoteName instrumenter registry meaning
    (∃ atHome atRemote, world.Followed home remote (Step.Ask registry steps) atHome atRemote
      (flags.after steps [] world).2) ∧
      (∀ (w : World) (feature : String) (write : Write),
        w.EndsInBoth home remote feature write (flags.adapter.write feature write w)) ∧
      (∀ {α : Type} (r : Read α) (store : Store),
        Keeps (fun w => w.store remote = store) (flags.adapter.read r)) ∧
      ∀ (step : Step) (scopes : List Scope), step.demand? registry = none →
        ∀ store : Store, Keeps (fun w => w.store remote = store) (step.run flags scopes) := by
  intro flags
  have adapter : flags.adapter =
      .dualWrite (.memory home homeName) (.memory remote remoteName) := rfl
  refine ⟨?_, fun w feature write => ?_, fun r store => ?_, fun step scopes asks store => ?_⟩
  · have start : world.Follows home remote (Step.Ask registry steps) world :=
      ⟨[], [], .idle rfl rfl⟩
    refine after_keeps (fun step mem scopes => ?_) [] start
    exact keeps_follows apart adapter (accepted step mem)
      (fun feature demand demanded write taken => ⟨step, mem, demand, demanded, taken⟩) world scopes
  · exact Adapter.dualWrite_ends apart homeName remoteName feature write w
  · exact keeps_remote_read apart adapter r store
  · refine keeps_step ⟨fun _ same => same, fun _ same => same⟩
      (fun r => keeps_remote_read apart adapter r store) (fun _ _ _ same => same)
      (fun feature demand demanded => ?_) scopes
    cases asks.symm.trans demanded

/-- Two empty stores; the fourth call to either is struck. -/
def unsteady : World :=
  let store : Store :=
    ⟨.empty, fun count _ => if count = 3 then some (.outside .connection "down") else none, 0⟩
  ((World.fresh ⟨fun _ => .int 0, 0, .int 0, [], []⟩).putStore "remote" store).putStore "home" store

/-- An actor is enabled, then everyone, and another feature is added. -/
def additions : List Step :=
  [.act "search" (.changeActor .enable (.actor (.text "User;1") .null)),
    .act "search" (.change .enable .null), .act "help" .add]

/-- Everyone is not enabled anywhere, and the other feature is added remotely only. -/
theorem home_never_ahead_unsteady :
    let flags := dualWriting "home" "remote" "memory" "memory" .none .standard
      fun _ _ => pure (.fresh .null)
    let now := (flags.after additions [] unsteady).2
    ((now.store "home").records.names.names, (now.store "remote").records.names.names) =
        (["search"], ["help", "search"]) ∧
      ((now.store "remote").records.cell? "search" "boolean").isNone = true ∧
      ∃ atHome atRemote, unsteady.Followed "home" "remote" (Step.Ask .standard additions)
        atHome atRemote now := by
  have accepted : ∀ step ∈ additions, Step.IsAccepted .standard step := by
    rintro step mem feature demand demanded
    rcases List.mem_cons.1 mem with rfl | mem
    · cases demanded
      exact ⟨_, rfl, fun _ => ⟨_, rfl⟩⟩
    rcases List.mem_pair.1 mem with rfl | rfl
    · cases demanded
      exact ⟨_, rfl, nofun⟩
    · cases demanded
      exact ⟨_, rfl, trivial⟩
  refine ⟨by decide +kernel, by decide +kernel, ?_⟩
  exact (home_never_ahead "home" "remote" "memory" "memory" .none .standard
    (fun _ _ => pure (.fresh .null)) unsteady (by decide) additions accepted).1

end FlagSet

end FeatureGates
