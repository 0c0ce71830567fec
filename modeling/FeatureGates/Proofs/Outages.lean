import FeatureGates.Proofs.Filing
import FeatureGates.Proofs.Serving

/-!
# Stores with outages

Every call to a store is seen and counted, and its outage decides by the
count and the operation whether the call is struck. So what a store has
suffered between two worlds can be read off what was seen in between
(`World.strikes`), and two stretches of time add up
(`World.Suffers.trans`).

A call that is struck has not touched the records. A read is one call; a
write is one, or two if it clears the feature. So a write of a store is
either struck, and has then at most made its feature exist, or it ends as
it is filed (`Adapter.writeStore_ends`). Struck or not, it keeps what calls
do not touch and filing keeps (`World.Stored.keeps_writeStore`), and does
nothing to other stores (`Adapter.keeps_writeStore_elsewhere`).
-/

namespace FeatureGates

variable {α : Type}

/-! ## Strikes -/

/-- The operation of a call to the store. -/
def Sighting.operationAt (store : String) : Sighting → Option String
  | .call name operation _ => if name = store then some operation else none
  | .note _ _ => none

namespace World

/-- The operations of the calls that a store has had since, in order. -/
def callsSince (before after : World) (store : String) : List String :=
  (after.surroundings.sightings.drop before.surroundings.sightings.length).filterMap
    (·.operationAt store)

/-- The failures that have struck calls to a store since, in order. -/
def strikes (before after : World) (store : String) : List Failure :=
  ((before.callsSince after store).zipIdx (before.store store).calls).filterMap fun call =>
    (before.store store).outage call.2 call.1

/-- Time has passed in which calls to a store were seen and counted, and some of them struck. -/
structure Suffers (store : String) (failures : List Failure) (before after : World) : Prop where
  outage : (after.store store).outage = (before.store store).outage
  seen : ∃ since, after.surroundings.sightings = before.surroundings.sightings ++ since
  counted : (after.store store).calls =
    (before.store store).calls + (before.callsSince after store).length
  strikes : before.strikes after store = failures

theorem callsSince_of_seen {before after : World} {since : List Sighting}
    (seen : after.surroundings.sightings = before.surroundings.sightings ++ since)
    (store : String) : before.callsSince after store = since.filterMap (·.operationAt store) := by
  rw [callsSince, seen, List.drop_left]

namespace Suffers

variable {store : String} {failures failures' : List Failure} {u v w : World}

theorem refl (store : String) (w : World) : w.Suffers store [] w := by
  have none : w.callsSince w store = [] := by
    rw [callsSince, List.drop_length]
    rfl
  refine ⟨rfl, ⟨[], (List.append_nil _).symm⟩, ?_, ?_⟩
  · rw [none]
    rfl
  · rw [World.strikes, none]
    rfl

theorem trans (h : u.Suffers store failures v) (h' : v.Suffers store failures' w) :
    u.Suffers store (failures ++ failures') w := by
  obtain ⟨first, seen⟩ := h.seen
  obtain ⟨second, seen'⟩ := h'.seen
  have both : w.surroundings.sightings = u.surroundings.sightings ++ (first ++ second) := by
    rw [seen', seen, List.append_assoc]
  have calls : u.callsSince w store = u.callsSince v store ++ v.callsSince w store := by
    rw [callsSince_of_seen both, callsSince_of_seen seen, callsSince_of_seen seen',
      List.filterMap_append]
  refine ⟨h'.outage.trans h.outage, ⟨first ++ second, both⟩, ?_, ?_⟩
  · rw [h'.counted, h.counted, calls, List.length_append, Nat.add_assoc]
  · have later := h'.strikes
    rw [World.strikes, h.outage, h.counted] at later
    rw [World.strikes, calls, List.zipIdx_append, List.filterMap_append, later]
    exact congrArg (· ++ failures') h.strikes

/-- Reports and other stores' records and calls are none of its business. -/
theorem congr (h : u.Suffers store failures v) (same : w.store store = v.store store)
    (seen : w.surroundings.sightings = v.surroundings.sightings) :
    u.Suffers store failures w where
  outage := by rw [same, h.outage]
  seen := by rw [seen]; exact h.seen
  counted := by rw [same, callsSince, seen]; exact h.counted
  strikes := by rw [World.strikes, callsSince, seen]; exact h.strikes

/-- What has struck once is what the store fails with. -/
theorem exists_outage {failure : Failure} (h : u.Suffers store [failure] v) :
    ∃ count operation, (u.store store).outage count operation = some failure := by
  have mem : failure ∈ u.strikes v store := by
    rw [h.strikes]
    exact List.mem_singleton_self failure
  obtain ⟨call, -, struck⟩ := List.mem_filterMap.1 mem
  exact ⟨call.2, call.1, struck⟩

end Suffers

/-- A store that never fails suffers nothing. -/
theorem strikes_of_available {before : World} {store : String}
    (available : ∀ count operation, (before.store store).outage count operation = none)
    (after : World) : before.strikes after store = [] :=
  List.filterMap_eq_nil_iff.2 fun call _ => available call.2 call.1

/-! ## Calls -/

/-- The world after a call has reached a store, whether or not it was struck. -/
def reached (world : World) (store operation : String) (keys : List String) : World :=
  let seen := { world.surroundings with
    sightings := world.surroundings.sightings ++ [.call store operation keys] }
  { world with surroundings := seen }.putStore store
    { world.store store with calls := (world.store store).calls + 1 }

variable (world : World) (store operation : String) (keys : List String)

theorem store_reached (other : String) :
    (world.reached store operation keys).store other =
      if other = store then { world.store store with calls := (world.store store).calls + 1 }
      else world.store other := store_putStore ..

theorem records_reached (other : String) :
    ((world.reached store operation keys).store other).records = (world.store other).records := by
  rw [store_reached]
  split
  · rename_i same
    rw [same]
  · rfl

theorem outage_reached (other : String) :
    ((world.reached store operation keys).store other).outage = (world.store other).outage := by
  rw [store_reached]
  split
  · rename_i same
    rw [same]
  · rfl

theorem callsSince_reached (other : String) :
    world.callsSince (world.reached store operation keys) other =
      if store = other then [operation] else [] := by
  have seen : (world.reached store operation keys).surroundings.sightings =
      world.surroundings.sightings ++ [.call store operation keys] := rfl
  rw [callsSince_of_seen seen, List.filterMap_cons, List.filterMap_nil, Sighting.operationAt]
  by_cases own : store = other
  · rw [if_pos own, if_pos own]
  · rw [if_neg own, if_neg own]

/-- A call is counted where it was made, and struck or not. -/
theorem suffers_reached :
    world.Suffers store ((world.store store).outage (world.store store).calls operation).toList
      (world.reached store operation keys) where
  outage := outage_reached ..
  seen := ⟨_, rfl⟩
  counted := by
    rw [callsSince_reached, if_pos rfl, store_reached, if_pos rfl]
    rfl
  strikes := by
    rw [strikes, callsSince_reached, if_pos rfl, List.zipIdx_singleton, List.filterMap_cons,
      List.filterMap_nil]
    cases (world.store store).outage (world.store store).calls operation <;> rfl

theorem suffers_reached_elsewhere {other : String} (h : other ≠ store) :
    world.Suffers other [] (world.reached store operation keys) where
  outage := outage_reached ..
  seen := ⟨_, rfl⟩
  counted := by
    rw [callsSince_reached, if_neg h.symm, store_reached, if_neg h]
    rfl
  strikes := by
    rw [strikes, callsSince_reached, if_neg h.symm]
    rfl

/-- What is filed is neither seen nor counted. -/
theorem suffers_putRecords (records : Records) (other : String) :
    world.Suffers other []
      (world.putStore store { world.store store with records }) := by
  have kept : ((world.putStore store { world.store store with records }).store other).outage =
        (world.store other).outage ∧
      ((world.putStore store { world.store store with records }).store other).calls =
        (world.store other).calls := by
    rw [store_putStore]
    split
    · rename_i same
      rw [same]
      exact ⟨rfl, rfl⟩
    · exact ⟨rfl, rfl⟩
  have start := Suffers.refl other world
  exact ⟨kept.1, start.seen, kept.2.trans start.counted, start.strikes⟩

end World

namespace Run

variable (store operation : String) (keys : List String) (world : World)

/-- A call is struck, or it is answered; it has reached the store in any case. -/
theorem call_apply :
    Run.call store operation keys world =
      match (world.store store).outage (world.store store).calls operation with
      | some failure => .error failure (world.reached store operation keys)
      | none => .ok () (world.reached store operation keys) := by
  simp only [Run.call, bind_apply, Run.sight, get_apply, modify_apply]
  have sighted : Run.ofCheck (Check.sight (.call store operation keys)) world =
      .ok () { world with surroundings := { world.surroundings with
        sightings := world.surroundings.sightings ++ [.call store operation keys] } } := rfl
  simp only [sighted]
  have same (s : Surroundings) : ({ world with surroundings := s } : World).store store =
      world.store store := rfl
  simp only [same]
  cases (world.store store).outage (world.store store).calls operation <;> rfl

theorem file_apply (filing : Filing α) :
    Run.file store filing world = match filing (world.store store).records with
      | .ok a records => .ok a (world.putStore store { world.store store with records })
      | .error failure records =>
        .error failure (world.putStore store { world.store store with records }) := rfl

end Run

/-! ## Other stores -/

/-- Worlds that differ at most in one store and in what was seen of it. -/
structure World.Elsewhere (store : String) (v w : World) : Prop where
  stores (other : String) : other ≠ store → w.store other = v.store other
  suffers (other : String) : other ≠ store → v.Suffers other [] w
  caches : w.caches = v.caches
  groups : w.groups = v.groups
  overlapping : w.overlapping = v.overlapping
  surroundings : v.surroundings.Alike w.surroundings

namespace World.Elsewhere

variable {store : String} {u v w : World}

theorem refl (store : String) (w : World) : Elsewhere store w w :=
  ⟨fun _ _ => rfl, fun other _ => .refl other w, rfl, rfl, rfl, .refl _⟩

theorem trans (h : Elsewhere store u v) (h' : Elsewhere store v w) : Elsewhere store u w where
  stores other ho := (h'.stores other ho).trans (h.stores other ho)
  suffers other ho := (h.suffers other ho).trans (h'.suffers other ho)
  caches := h'.caches.trans h.caches
  groups := h'.groups.trans h.groups
  overlapping := h'.overlapping.trans h.overlapping
  surroundings := h.surroundings.trans h'.surroundings

theorem of_reached (store operation : String) (keys : List String) (w : World) :
    Elsewhere store w (w.reached store operation keys) where
  stores other ho := by rw [store_reached, if_neg ho]
  suffers other ho := suffers_reached_elsewhere w store operation keys ho
  caches := rfl
  groups := rfl
  overlapping := rfl
  surroundings := ⟨rfl, rfl, rfl⟩

theorem of_putRecords (store : String) (w : World) (records : Records) :
    Elsewhere store w (w.putStore store { w.store store with records }) where
  stores other ho := by rw [store_putStore, if_neg ho]
  suffers other _ := suffers_putRecords w store records other
  caches := rfl
  groups := rfl
  overlapping := rfl
  surroundings := .refl _

end World.Elsewhere

/-! ## What calls and filing keep -/

/-- A property of worlds that calls to a store do not touch, nor does what is filed there, if that
keeps a property of records. -/
structure World.Stored (store : String) (J : Records → Prop) (I : World → Prop) : Prop where
  records {w : World} : I w → J (w.store store).records
  reached {w : World} (operation : String) (keys : List String) :
    I w → I (w.reached store operation keys)
  putRecords {w : World} {records : Records} : I w → J records →
    I (w.putStore store { w.store store with records })

namespace World.Stored

variable {store : String} {J : Records → Prop} {I : World → Prop} (h : Stored store J I)

include h

theorem keeps_call (operation : String) (keys : List String) :
    Keeps I (Run.call store operation keys) := by
  intro w hw
  rw [Run.call_apply]
  cases (w.store store).outage (w.store store).calls operation with
  | none => exact h.reached operation keys hw
  | some failure => exact h.reached operation keys hw

theorem keeps_file {filing : Filing α} (hf : Keeps J filing) : Keeps I (Run.file store filing) := by
  intro w hw
  rw [Run.file_apply]
  cases filed : filing (w.store store).records with
  | ok a records => exact h.putRecords hw (hf.of_ok (h.records hw) filed)
  | error failure records => exact h.putRecords hw (hf.of_error (h.records hw) filed)

theorem keeps_readStore (r : Read α) : Keeps I (Adapter.readStore store r) :=
  (h.keeps_call _ _).bind fun _ => Keeps.bind (.get_bind fun _ => .pure _) fun _ => .pure _

theorem keeps_writeStore (feature : String) {write : Write} (files : write.Files J feature) :
    Keeps I (Adapter.writeStore store feature write) := by
  refine (h.keeps_call _ _).bind fun _ => ?_
  cases write with
  | disable slot thing =>
    refine (h.keeps_file files.1).bind fun again => .ite ?_ (.pure _)
    exact (h.keeps_call _ _).bind fun _ => h.keeps_file files.2
  | add => exact h.keeps_file files
  | remove => exact h.keeps_file files
  | clear => exact h.keeps_file files
  | enable slot thing => exact h.keeps_file files

end World.Stored

theorem World.Elsewhere.stored (store : String) (v : World) :
    World.Stored store (fun _ => True) (World.Elsewhere store v) where
  records _ := trivial
  reached operation keys h := h.trans (.of_reached store operation keys _)
  putRecords h _ := h.trans (.of_putRecords store _ _)

namespace Adapter

variable (store feature : String)

/-- A write of a store does nothing to others, whether it is struck or not. -/
theorem keeps_writeStore_elsewhere (write : Write) (v : World) :
    Keeps (World.Elsewhere store v) (writeStore store feature write) :=
  (World.Elsewhere.stored store v).keeps_writeStore feature (.of_all fun _ => trivial)

/-- A read of a store is struck, or answered with what the records say. -/
theorem readStore_apply (r : Read α) (w : World) :
    readStore store r w = match (w.store store).outage (w.store store).calls r.name with
      | some failure => .error failure (w.reached store r.name r.subjects)
      | none => .ok ((w.store store).records.read r) (w.reached store r.name r.subjects) := by
  simp only [readStore, bind_apply, Run.call_apply]
  cases (w.store store).outage (w.store store).calls r.name with
  | some failure => rfl
  | none =>
    show EStateM.Result.ok
      (((w.reached store r.name r.subjects).store store).records.read r) _ = _
    rw [World.records_reached]

/-! ## Writes of a store -/

/-- A store that has not been struck holds some records in the end. -/
structure Unstruck (before after : World) (records : Records) : Prop where
  records : (after.store store).records = records
  suffers : before.Suffers store [] after

/-- What is filed once the store has been reached. -/
theorem unstruck_file {before w : World} (unstruck : before.Suffers store [] w) {α : Type}
    (filing : Filing α) :
    Ends (fun a b after records => a = b ∧ Unstruck store before after records)
      (fun after records => Unstruck store before after records)
      (Run.file store filing w) (filing (w.store store).records) := by
  have put (records : Records) : Unstruck store before
      (w.putStore store { w.store store with records }) records := by
    refine ⟨?_, unstruck.trans (World.suffers_putRecords w store records store)⟩
    rw [World.store_putStore, if_pos rfl]
  rw [Run.file_apply]
  cases filing (w.store store).records with
  | ok a records => exact ⟨rfl, put records⟩
  | error failure records => exact ⟨rfl, put records⟩

/-- A call is struck and has touched nothing, or what it is about is filed. -/
theorem call_file_ends (operation : String) (keys : List String) {before w : World}
    (unstruck : before.Suffers store [] w) {α : Type} (filing : Filing α) :
    (∃ failure w', (Run.call store operation keys >>= fun _ => Run.file store filing) w =
        .error failure w' ∧
      before.Suffers store [failure] w' ∧
      (w'.store store).records = (w.store store).records) ∨
    Ends (fun a b after records => a = b ∧ Unstruck store before after records)
      (fun after records => Unstruck store before after records)
      ((Run.call store operation keys >>= fun _ => Run.file store filing) w)
      (filing (w.store store).records) := by
  have suffers := unstruck.trans (w.suffers_reached store operation keys)
  have kept := w.records_reached store operation keys store
  simp only [bind_apply, Run.call_apply]
  cases struck : (w.store store).outage (w.store store).calls operation with
  | some failure =>
    rw [struck] at suffers
    exact .inl ⟨failure, _, rfl, suffers, kept⟩
  | none =>
    rw [struck] at suffers
    have filed := unstruck_file store suffers filing
    rw [kept] at filed
    exact .inr filed

end Adapter

/-- Disabling asks for a clearing only after it has made the feature exist, and done no more. -/
theorem Filing.disable_again {feature : String} {slot : Slot} {thing : Value}
    {records after : Records} (h : disable feature slot thing records = .ok true after) :
    after = records.ensure feature := by
  simp only [disable, bind_apply, modify_apply] at h
  cases slot with
  | foreign name => cases h
  | gate gate =>
    cases kind : gate.dataType with
    | boolean =>
      simp only [Slot.dataType?, kind] at h
      cases h
      rfl
    | number =>
      simp only [Slot.dataType?, kind, bind_apply] at h
      split at h <;> cases h
    | set =>
      simp only [Slot.dataType?, kind, bind_apply] at h
      split at h <;> cases h
    | document =>
      simp only [Slot.dataType?, kind] at h
      cases h

namespace Adapter

/-- A write of a store is struck, and has at most made its feature exist, or it ends as it is
filed. -/
theorem writeStore_ends (store feature : String) (write : Write) (w : World) :
    (∃ failure w', writeStore store feature write w = .error failure w' ∧
      w.Suffers store [failure] w' ∧
      ((w'.store store).records = (w.store store).records ∨
        (w'.store store).records = (w.store store).records.ensure feature ∧
          ∃ slot thing, write = .disable slot thing)) ∨
    Ends (fun a b w' records => a = b ∧ Unstruck store w w' records)
      (fun w' records => Unstruck store w w' records)
      (writeStore store feature write w) (Filing.write feature write (w.store store).records) := by
  have called {α : Type} (filing : Filing α) :=
    call_file_ends store write.name (write.keys feature) (.refl store w) filing
  have untouched {run : Run Bool} {P : World → Prop} : (∃ failure w', run w = .error failure w' ∧
        w.Suffers store [failure] w' ∧ (w'.store store).records = (w.store store).records) →
      ∃ failure w', run w = .error failure w' ∧ w.Suffers store [failure] w' ∧
        ((w'.store store).records = (w.store store).records ∨ P w') := by
    rintro ⟨failure, w', ran, suffers, same⟩
    exact ⟨failure, w', ran, suffers, .inl same⟩
  unfold writeStore
  cases write with
  | add => exact (called _).imp_left untouched
  | remove => exact (called _).imp_left untouched
  | clear => exact (called _).imp_left untouched
  | enable slot thing => exact (called _).imp_left untouched
  | disable slot thing =>
    rw [← bind_assoc, Filing.write]
    simp only [bind_apply (_ >>= _), bind_apply (Filing.disable _ _ _)]
    rcases called (Filing.disable feature slot thing) with
      ⟨failure, w', ran, suffers, same⟩ | ends
    · rw [ran]
      exact .inl ⟨failure, w', rfl, suffers, .inl same⟩
    · rcases ends.elim with
        ⟨again, v, _, after, ran, spec_ran, rfl, held⟩ | ⟨failure, v, after, ran, spec_ran, held⟩
      · rw [ran, spec_ran]
        cases again with
        | false => exact .inr ⟨rfl, held⟩
        | true =>
          -- the clearing is a call of its own, which may be struck in turn
          have cleared := call_file_ends store Write.clear.name (Write.clear.keys feature)
            held.suffers (Filing.clear feature)
          rw [held.records] at cleared
          rcases cleared with ⟨failure, w', ran, suffers, same⟩ | filed
          · refine .inl ⟨failure, w', ran, suffers, .inr ⟨?_, slot, thing, rfl⟩⟩
            rw [same, Filing.disable_again spec_ran]
          · exact .inr filed
      · rw [ran, spec_ran]
        exact .inr ⟨rfl, held⟩

end Adapter

end FeatureGates
