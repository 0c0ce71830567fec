import FeatureGates.Proofs.Oblivious
import FeatureGates.Proofs.Rules

/-!
# Adapters that serve like a reference machine

A world *holds* the state of a reference machine in one of its stores if
the two agree on everything that flags depend on (`World.Holds`). What else
a world has, such as sightings, log lines, events and calls counted, may
change freely (`Unseeing`).

An adapter *serves* under some rules if, in related states, its reads and
writes end like those of a machine under these rules (`Serves`). A store in
memory serves under no rules (`serves_memory`), a limit on actors, a strict
reader and a read-only wrapper each add theirs.
-/

namespace FeatureGates

variable {α β : Type}

/-- Worlds that differ at most in what was seen, logged and recorded. -/
structure World.SameFlags (v w : World) : Prop where
  stores : v.stores = w.stores
  caches : v.caches = w.caches
  groups : v.groups = w.groups
  overlapping : v.overlapping = w.overlapping
  surroundings : v.surroundings.Alike w.surroundings

theorem World.SameFlags.store {v w : World} (h : SameFlags v w) (name : String) :
    w.store name = v.store name := by rw [World.store, World.store, h.stores]

/-- A relation of worlds and machine states that does not look at what was
seen, logged and recorded. -/
def Unseeing (R : World → ReferenceState → Prop) : Prop :=
  ∀ v w s, World.SameFlags v w → R v s → R w s

/-- A relation under which checks see the same and go on alike. -/
structure Grounded (R : World → ReferenceState → Prop) : Prop where
  unseeing : Unseeing R
  groups {w : World} {s : ReferenceState} : R w s → w.groups = s.groups
  surroundings {w : World} {s : ReferenceState} : R w s → w.surroundings.Alike s.surroundings
  goOn {w : World} {s : ReferenceState} {a b : Surroundings} :
    R w s → a.Alike b → R { w with surroundings := a } { s with surroundings := b }

/-- What of a world neither a store nor its wrappers but caches ever change. -/
structure Frame where
  caches : Table Cache
  overlapping : Bool
  groups : Groups

/-- A world with a reference machine's state in one of its stores. -/
structure World.Holds (store : String) (frame : Frame) (world : World) (state : ReferenceState) :
    Prop where
  records : (world.store store).records = state.records
  available : ∀ count operation, (world.store store).outage count operation = none
  surroundings : world.surroundings.Alike state.surroundings
  groups : world.groups = state.groups
  caches : world.caches = frame.caches
  overlapping : world.overlapping = frame.overlapping
  registered : world.groups = frame.groups

/-- Any world whose store does not fail holds its own records. -/
theorem World.holds_self {store : String} {world : World}
    (available : ∀ count operation, (world.store store).outage count operation = none) :
    world.Holds store ⟨world.caches, world.overlapping, world.groups⟩
      ⟨(world.store store).records, world.surroundings, world.groups⟩ :=
  ⟨rfl, available, .refl _, rfl, rfl, rfl, rfl⟩

namespace World.Holds

variable {store : String} {frame : Frame}

theorem unseeing : Unseeing (World.Holds store frame) := by
  intro v w s same h
  have stores := same.store store
  exact {
    records := stores ▸ h.records
    available := stores ▸ h.available
    surroundings := same.surroundings.symm.trans h.surroundings
    groups := same.groups ▸ h.groups
    caches := same.caches ▸ h.caches
    overlapping := same.overlapping ▸ h.overlapping
    registered := same.groups ▸ h.registered }

theorem grounded : Grounded (World.Holds store frame) where
  unseeing := unseeing
  groups h := h.groups
  surroundings h := h.surroundings
  goOn h alike := {
    records := h.records
    available := h.available
    surroundings := alike
    groups := h.groups
    caches := h.caches
    overlapping := h.overlapping
    registered := h.registered }

/-- It has the caches of the world that the frame is of. -/
theorem cache_eq {v w : World} {overlapping : Bool} {groups : Groups} {s : ReferenceState}
    (h : w.Holds store ⟨v.caches, overlapping, groups⟩ s) (cache : String) :
    w.cache cache = v.cache cache := by
  rw [World.cache, World.cache, h.caches]

/-- A store holds what is filed in it. -/
theorem putStore {w : World} {s : ReferenceState} (h : w.Holds store frame s) (records : Records)
    (calls : Nat) :
    (w.putStore store ⟨records, (w.store store).outage, calls⟩).Holds store frame
      { s with records } := by
  have own := w.store_putStore store store ⟨records, (w.store store).outage, calls⟩
  rw [if_pos rfl] at own
  exact {
    records := congrArg Store.records own
    available := fun count operation => by rw [own]; exact h.available count operation
    surroundings := h.surroundings
    groups := h.groups
    caches := h.caches
    overlapping := h.overlapping
    registered := h.registered }

end World.Holds

namespace Run

variable {store : String} {frame : Frame} {R : World → ReferenceState → Prop}

/-- Anything that only leaves something to see does nothing. -/
theorem skip (hR : Unseeing R) {run : Run Unit}
    (h : ∀ w, ∃ w', run w = .ok () w' ∧ World.SameFlags w w') :
    Matches R (fun _ _ => True) run (pure () : Machine Unit) := by
  intro w s hr
  obtain ⟨w', ends, same⟩ := h w
  rw [ends]
  exact ⟨trivial, hR w w' s same hr⟩

theorem sameFlags_sight (sighting : Sighting) (w : World) :
    ∃ w', sight sighting w = .ok () w' ∧ World.SameFlags w w' :=
  ⟨_, rfl, rfl, rfl, rfl, rfl, rfl, rfl, rfl⟩

theorem sameFlags_warn (message : String) (fields : List (String × Value)) (w : World) :
    ∃ w', warn message fields w = .ok () w' ∧ World.SameFlags w w' :=
  ⟨_, rfl, rfl, rfl, rfl, rfl, rfl, rfl, rfl⟩

/-- An oblivious check goes on alike on both sides. -/
theorem ofCheck_matches (hR : Grounded R) {check : Check α} (h : check.Oblivious) :
    Matches R Eq (Run.ofCheck check) (Machine.ofCheck check) := by
  intro w s hr
  unfold ofCheck Machine.ofCheck
  rcases (h w.surroundings s.surroundings (hR.surroundings hr)).elim with
    ⟨a, after, b, after', ran, ran', same, alike⟩ | ⟨failure, after, after', ran, ran', alike⟩
  · have ran : check.run w.surroundings = .ok a after := ran
    have ran' : check.run s.surroundings = .ok b after' := ran'
    rw [ran, ran']
    exact ⟨same, hR.goOn hr alike⟩
  · have ran : check.run w.surroundings = .error failure after := ran
    have ran' : check.run s.surroundings = .error failure after' := ran'
    rw [ran, ran']
    exact ⟨rfl, hR.goOn hr alike⟩

theorem ofExcept_matches (result : Except Failure α) :
    Matches R Eq (Run.ofExcept result) (Machine.ofExcept result) := by
  cases result with
  | ok value => exact .pure rfl
  | error failure => exact .throw failure

theorem ofExcept_bind {x : Except Failure α} {f : α → Except Failure β} :
    ofExcept (x >>= f) = ofExcept x >>= fun a => ofExcept (f a) := by
  cases x <;> rfl

/-- A call to a store that does not fail changes nothing that counts. -/
theorem call_matches (operation : String) (keys : List String) :
    Matches (World.Holds store frame) (fun _ _ => True) (call store operation keys)
      (pure () : Machine Unit) := by
  intro w s h
  obtain ⟨seen, sighted, same⟩ := sameFlags_sight (.call store operation keys) w
  have h := World.Holds.unseeing w seen s same h
  have none := h.available (seen.store store).calls operation
  simp only [call, bind_apply, sighted, get_apply, modify_apply, none]
  exact ⟨trivial, h.records ▸ h.putStore (seen.store store).records _⟩

theorem file_matches (filing : Filing α) :
    Matches (World.Holds store frame) Eq (file store filing) (Machine.file filing) := by
  intro w s h
  unfold file Machine.file
  dsimp only
  rw [h.records]
  cases filed : filing.run s.records with
  | ok value records => exact ⟨rfl, h.putStore records _⟩
  | error failure records => exact ⟨rfl, h.putStore records _⟩

end Run

/-! ## Exact adapters -/

/-- Reads and writes end exactly like those of a machine under the rules. -/
structure ServesExactly (adapter : Adapter) (rules : Rules) (R : World → ReferenceState → Prop) :
    Prop where
  grounded : Grounded R
  read {α : Type} (r : Read α) : Matches R Eq (adapter.read r) (rules.read r)
  write (feature : String) (w : Write) :
    Matches R Eq (adapter.write feature w) (rules.write feature w)

section Exact

variable {store : String} {frame : Frame}

theorem writeStore_matches (feature : String) (w : Write) :
    Matches (World.Holds store frame) Eq (Adapter.writeStore store feature w)
      (Machine.file (Filing.write feature w)) := by
  refine (Run.call_matches _ _).skip_bind fun _ => ?_
  cases w with
  | add => exact Run.file_matches _
  | remove => exact Run.file_matches _
  | clear => exact Run.file_matches _
  | enable slot thing => exact Run.file_matches _
  | disable slot thing =>
    unfold Filing.write
    rw [Machine.file_bind]
    refine (Run.file_matches _).bind ?_
    intro again _ same
    rw [← same]
    cases again with
    | true => exact (Run.call_matches _ _).skip_bind fun _ => Run.file_matches _
    | false => exact .pure rfl

/-- A store in memory serves under no rules. -/
theorem serves_memory (name : String) :
    ServesExactly (.memory store name) .lenient (World.Holds store frame) where
  grounded := World.Holds.grounded
  read r := by
    rw [Rules.read_of_lenient rfl]
    exact (Run.call_matches _ _).skip_bind fun _ =>
      fun w s h => ⟨congrArg (Records.read · r) h.records, h⟩
  write feature w := by
    unfold Rules.write
    rw [Rules.guardWrite_of_unlimited rfl rfl, pure_bind]
    exact writeStore_matches feature w

/-- A read of a store in memory is answered with what its records say. -/
theorem read_memory (name : String) {w : World} {s : ReferenceState} (h : w.Holds store frame s)
    (r : Read α) :
    ∃ w', (Adapter.memory store name).read r w = .ok (s.records.read r) w' ∧
      w'.Holds store frame s := by
  have ends := (serves_memory name).read r w s h
  rw [Rules.read_of_found fun refuses => by cases refuses] at ends
  obtain ⟨answer, w', ran, rfl, holds⟩ := ends.of_ok
  exact ⟨w', ran, holds⟩

/-- A write to a store in memory is made, or fails, as it is in its records. -/
theorem write_memory (name : String) {w : World} {s : ReferenceState} (h : w.Holds store frame s)
    (feature : String) (write : Write) :
    match Filing.write feature write s.records with
    | .ok made after => ∃ w', (Adapter.memory store name).write feature write w = .ok made w' ∧
        w'.Holds store frame { s with records := after }
    | .error failure after =>
        ∃ w', (Adapter.memory store name).write feature write w = .error failure w' ∧
          w'.Holds store frame { s with records := after } := by
  have ends := writeStore_matches feature write w s h
  unfold Machine.file at ends
  cases filed : (Filing.write feature write).run s.records with
  | ok made after =>
    rw [filed] at ends
    obtain ⟨made, w', ran, rfl, holds⟩ := ends.of_ok
    have filed : Filing.write feature write s.records = .ok made after := filed
    rw [filed]
    exact ⟨w', ran, holds⟩
  | error failure after =>
    rw [filed] at ends
    obtain ⟨w', ran, holds⟩ := ends.of_error
    have filed : Filing.write feature write s.records = .error failure after := filed
    rw [filed]
    exact ⟨w', ran, holds⟩

end Exact

namespace ServesExactly

variable {adapter : Adapter} {limit? : Option Int} {refuses : Bool}
  {R : World → ReferenceState → Prop}

theorem atLimit (h : ServesExactly adapter .lenient R) (limit : Int) (feature : String) :
    Matches R Eq (Adapter.atLimit limit (adapter.read (.get feature)))
      (Rules.isFull limit feature) := by
  have read := h.read (.get feature)
  rw [Rules.read_of_lenient rfl, ← map_eq_pure_bind] at read
  have names : Matches R Eq
      (adapter.read (.get feature) >>= fun raw =>
        Run.ofExcept (Raw.toNames (Entries.get raw Gate.actor.key)))
      ((fun s : ReferenceState => s.records.read (.get feature)) <$> get >>= fun raw =>
        Machine.ofExcept (Raw.toNames (Entries.get raw Gate.actor.key))) := by
    refine read.bind ?_
    intro raw _ same
    rw [← same]
    exact Run.ofExcept_matches _
  have full := names.bind (C := Eq) (f := fun names => pure (decide (limit ≤ names.size)))
    (g := fun names => pure (decide (limit ≤ names.size))) fun names _ same => by
      rw [← same]
      exact .pure rfl
  simpa [Adapter.atLimit, Rules.isFull, Records.read] using full

/-- A limit on actors. -/
theorem actorLimit (h : ServesExactly adapter .lenient R) (limit : Int) :
    ServesExactly (.actorLimit limit adapter) ⟨false, some limit, false⟩ R where
  grounded := h.grounded
  read r := h.read r
  write feature w := by
    have write := h.write feature w
    unfold Rules.write at write ⊢
    rw [Rules.guardWrite_of_unlimited rfl rfl, pure_bind] at write
    rw [Rules.guardWrite_of_limited rfl rfl]
    unfold Adapter.write
    cases adds : Adapter.addsActor w with
    | false => exact write
    | true =>
      simp only [if_true, Rules.guardActors, bind_assoc]
      refine (h.atLimit limit feature).bind ?_
      intro full _ same
      rw [← same]
      cases full with
      | true => exact .throw _
      | false => exact write

theorem features (h : ServesExactly adapter ⟨false, limit?, false⟩ R) :
    Matches R Eq (adapter.read .features) (do return (← get).records.names) := by
  have read := h.read .features
  rwa [Rules.read_of_lenient rfl] at read

/-- Asking for the existing features has no effect. -/
theorem check_matches (h : ServesExactly adapter ⟨false, limit?, false⟩ R)
    (missing : MissingFeature) (feature : String) {spec : Machine Unit}
    (hs : Matches R Eq (missing.react feature) spec) :
    Matches R Eq (missing.check (adapter.read .features) feature)
      (do if (← get).records.contains feature then return else spec) := by
  have checked : Matches R Eq (missing.check (adapter.read .features) feature)
      ((do return (← get).records.names : Machine NameSet) >>= fun names =>
        if names.contains feature then pure () else spec) := by
    refine h.features.bind ?_
    intro names _ same
    rw [← same]
    cases names.contains feature with
    | true => exact .pure rfl
    | false => exact hs
  have contains (records : Records) :
      records.names.contains feature = true ↔ records.contains feature = true := by
    rw [NameSet.contains_iff, Table.mem_names]
  simpa only [bind_assoc, pure_bind, contains] using checked

theorem checkAll_matches (h : ServesExactly adapter ⟨false, limit?, false⟩ R)
    (features : List String) :
    Matches R Eq (features.forM (MissingFeature.refuse.check (adapter.read .features)))
      (Rules.requireAll features) := by
  induction features with
  | nil => exact .pure rfl
  | cons feature rest ih =>
    have first := h.check_matches .refuse feature (.throw (Failure.featureNotFound feature))
    have both := first.bind (g := fun _ => Rules.requireAll rest) fun _ _ _ => ih
    rw [Rules.requireAll_cons]
    rw [bind_assoc] at both
    refine Eq.subst (motive := Matches R Eq _) ?_ both
    funext s
    simp only [bind_apply, get_apply]
    cases s.records.contains feature <;> rfl

/-- Refusing reads of features that do not exist. -/
theorem strict (h : ServesExactly adapter ⟨false, limit?, false⟩ R) :
    ServesExactly (.strict .refuse adapter) ⟨false, limit?, true⟩ R where
  grounded := h.grounded
  read r := by
    have read := h.read r
    rw [Rules.read_of_lenient rfl] at read
    rw [Rules.read_of_refusing rfl]
    exact (h.checkAll_matches r.subjects).bind fun _ _ _ => read
  write feature w := h.write feature w

/-- Warning of reads of features that do not exist. -/
theorem strictWarning (h : ServesExactly adapter ⟨false, limit?, false⟩ R) :
    ServesExactly (.strict .warn adapter) ⟨false, limit?, false⟩ R where
  grounded := h.grounded
  read r := by
    have quiet (feature : String) : Matches R (fun _ _ => True)
        (MissingFeature.warn.check (adapter.read .features) feature) (pure () : Machine Unit) := by
      have warned : Matches R Eq (MissingFeature.warn.react feature) (pure () : Machine Unit) :=
        (Run.skip h.grounded.unseeing (Run.sameFlags_warn _ _)).mono fun _ _ _ => rfl
      have checked := (h.check_matches .warn feature warned).mono fun _ _ _ => trivial
      refine Eq.subst (motive := Matches R (fun _ _ => True) _) ?_ checked
      funext s
      simp only [bind_apply, get_apply, ite_self]
    have all (features : List String) : Matches R (fun _ _ => True)
        (features.forM (MissingFeature.warn.check (adapter.read .features)))
        (pure () : Machine Unit) := by
      induction features with
      | nil => exact .pure trivial
      | cons feature rest ih => exact (quiet feature).skip_bind fun _ => ih
    exact (all r.subjects).skip_bind fun _ => h.read r
  write feature w := h.write feature w

/-- Refusing all writes. -/
theorem readOnly (h : ServesExactly adapter ⟨false, limit?, refuses⟩ R) :
    ServesExactly (.readOnly adapter) ⟨true, limit?, refuses⟩ R where
  grounded := h.grounded
  read r := h.read r
  write feature w := by
    unfold Rules.write
    rw [Rules.guardWrite_of_readOnly rfl]
    exact .throw _

end ServesExactly

end FeatureGates
