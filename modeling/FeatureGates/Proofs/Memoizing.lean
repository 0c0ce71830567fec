import FeatureGates.Proofs.Actions
import FeatureGates.Proofs.Coherence

/-!
# A memoizing adapter serves like the adapter in it

While the cache is coherent with the records and no reads overlap
(`Memoized`), a read through it either finds an answer that flags do not
tell apart from the one behind it, or gets that answer from there and
remembers it. Writes go through and drop what they may have changed. So a
memoizing adapter serves whenever the one in it serves exactly
(`ServesExactly.memoizing`).

Neither reads nor writes switch the cache. While it is off (`Switched`) a
read gets the very answer from behind (`memoizing_read_off`).
-/

namespace FeatureGates

variable {α : Type}

/-- A world that holds a machine's state, and a coherent cache of it. -/
structure Memoized (store cache : String) (refuses : Bool) (groups : Groups) (world : World)
    (state : ReferenceState) : Prop where
  holds : world.Holds store ⟨world.caches, world.overlapping, groups⟩ state
  calm : world.overlapping = false
  distinct : state.records.Distinct
  coherent : (world.cache cache).Coherent refuses state.records

namespace Memoized

variable {store cache : String} {refuses : Bool} {groups : Groups} {v w : World}
  {s t : ReferenceState}

/-- Whatever leaves the caches alone leaves them as coherent as they are. -/
theorem of_holds (h : Memoized store cache refuses groups v s)
    (hw : w.Holds store ⟨v.caches, v.overlapping, groups⟩ t) (hd : t.records.Distinct)
    (hc : (v.cache cache).Coherent refuses t.records) :
    Memoized store cache refuses groups w t where
  holds := { hw with caches := rfl, overlapping := rfl }
  calm := hw.overlapping.trans h.calm
  distinct := hd
  coherent := hw.cache_eq cache ▸ hc

theorem putCache (h : Memoized store cache refuses groups w s) {known : Cache}
    (hc : known.Coherent refuses s.records) :
    Memoized store cache refuses groups (w.putCache cache known) s where
  holds := { h.holds with caches := rfl, overlapping := rfl }
  calm := h.calm
  distinct := h.distinct
  coherent := by
    rw [World.cache_putCache, if_pos rfl]
    exact hc

theorem grounded : Grounded (Memoized store cache refuses groups) where
  unseeing v w s same h := by
    refine h.of_holds ?_ h.distinct h.coherent
    exact World.Holds.unseeing v w s same h.holds
  groups h := h.holds.groups
  surroundings h := h.holds.surroundings
  goOn h alike := {
    holds := { h.holds with surroundings := alike }
    calm := h.calm
    distinct := h.distinct
    coherent := h.coherent }

end Memoized

/-- A memoized world with the cache switched on, or off. -/
structure Switched (on : Bool) (store cache : String) (refuses : Bool) (groups : Groups)
    (world : World) (state : ReferenceState) : Prop where
  memoized : Memoized store cache refuses groups world state
  active : (world.cache cache).active = on

theorem Switched.grounded {on : Bool} {store cache : String} {refuses : Bool} {groups : Groups} :
    Grounded (Switched on store cache refuses groups) where
  unseeing v w s same h :=
    ⟨Memoized.grounded.unseeing v w s same h.memoized, by
      rw [World.cache, ← same.caches]
      exact h.active⟩
  groups h := h.memoized.holds.groups
  surroundings h := h.memoized.holds.surroundings
  goOn h alike := ⟨Memoized.grounded.goOn h.memoized alike, h.active⟩

/-! ## Consulting a cache -/

namespace Cache

theorem tryCatch_apply (run : Run α) (handle : Failure → Run α) (w : World) :
    (tryCatch run handle) w = match run w with
      | .ok a w => .ok a w
      | .error failure w => handle failure w := by
  show EStateM.tryCatch run handle w = _
  unfold EStateM.tryCatch
  cases run w <;> rfl

variable {cache : String} {load : Option String} {known : Cache → Option α}
  {keep : Cache → α → Cache} {run : Run α} {w : World}

/-- What is known is given at once. -/
theorem consult_known {a : α} (h : known (w.cache cache) = some a) :
    consult cache load known keep run w = .ok a w := by
  simp only [consult, bind_apply, get_apply, h, pure_apply]

/-- What is not known is loaded and kept. -/
theorem consult_loaded {a : α} {w' : World} (h : known (w.cache cache) = none)
    (hf : (w.cache cache).failed = []) (ran : run w = .ok a w') :
    consult cache load known keep run w = .ok a (w'.putCache cache (keep (w'.cache cache) a)) := by
  simp only [consult, bind_apply, get_apply, h, hf, List.lookup_nil, tryCatch_apply, ran,
    Run.modifyCache, modify_apply, pure_apply]

/-- A load that fails by itself is not remembered. -/
theorem consult_failed {failure : Failure} {w' : World} (h : known (w.cache cache) = none)
    (hf : (w.cache cache).failed = []) (hc : w'.overlapping = false)
    (ran : run w = .error failure w') :
    consult cache load known keep run w = .error failure w' := by
  simp only [consult, bind_apply, get_apply, h, hf, List.lookup_nil, tryCatch_apply, ran, hc]
  rfl

end Cache

/-! ## Reading -/

theorem Rules.contains_of_read {rules : Rules} {r : Read α} {s t : ReferenceState} {a : α}
    (hr : rules.refusesMissing = true) (h : rules.read r s = .ok a t) :
    ∀ feature ∈ r.subjects, s.records.contains feature = true := by
  cases found : missing? s.records r.subjects with
  | some feature =>
    rw [read_of_missing hr found] at h
    cases h
  | none =>
    intro feature mem
    have nowhere := List.find?_eq_none.1 found feature mem
    simpa using nowhere

/-- Reads of several features end alike if the same feature is the first that is missing. -/
theorem Rules.read_getMulti_alike (rules : Rules) (s : ReferenceState) {fs gs : List String}
    (h : rules.refusesMissing = true → missing? s.records fs = missing? s.records gs) :
    (rules.read (.getMulti fs) s = .ok (s.records.read (.getMulti fs)) s ∧
      rules.read (.getMulti gs) s = .ok (s.records.read (.getMulti gs)) s) ∨
    ∃ e, rules.read (.getMulti fs) s = .error e s ∧ rules.read (.getMulti gs) s = .error e s := by
  cases hr : rules.refusesMissing with
  | false =>
    have never {P : Prop} (refusing : rules.refusesMissing = true) : P :=
      nomatch hr.symm.trans refusing
    exact .inl ⟨read_of_found never, read_of_found never⟩
  | true =>
    cases found : missing? s.records gs with
    | none =>
      exact .inl ⟨read_of_found fun _ => (h hr).trans found, read_of_found fun _ => found⟩
    | some feature =>
      exact .inr ⟨_, read_of_missing hr ((h hr).trans found), read_of_missing hr found⟩

namespace Cache

variable {cache : Cache} {features : List String}

/-- What a cache knows exists, so leaving it out does not change what is missing. -/
theorem missing?_unknown {records : Records}
    (h : ∀ feature, cache.values.contains feature = true → records.contains feature = true)
    (features : List String) :
    Rules.missing? records (cache.unknown features) = Rules.missing? records features := by
  unfold Rules.missing? unknown
  rw [List.find?_filter]
  refine congrArg (List.find? · features) (funext fun feature => ?_)
  cases known : cache.values.contains feature with
  | false => simp
  | true => simp [h feature known]

/-- After what was unknown has been loaded, all is known. -/
theorem contains_loaded {feature : String} (mem : feature ∈ features) {value : String → Entries} :
    (cache.putAllValues (.ofRows
      ((cache.unknown features).map fun f => (f, value f)))).values.contains feature = true := by
  refine Table.contains_putAll.2 ?_
  cases known : cache.values.contains feature with
  | true => exact .inr rfl
  | false =>
    refine .inl (Table.mem_names_ofRows ?_)
    rw [List.map_map, List.mem_map]
    exact ⟨feature, List.mem_filter.2 ⟨mem, by rw [known]; rfl⟩, rfl⟩

/-- What is known of several features is given without any load. -/
theorem mapM_known (cache : String) (loadOne : String → Run Entries) (w : World)
    (h : ∀ feature ∈ features, (w.cache cache).values.contains feature = true) :
    (features.mapM fun feature => do
      return (feature, ← consultValues cache feature (loadOne feature))) w =
      .ok (features.map fun feature =>
        (feature, ((w.cache cache).values.find? feature).getD [])) w := by
  induction features with
  | nil => rfl
  | cons feature rest ih =>
    obtain ⟨raw, known⟩ := Option.isSome_iff_exists.1 (h feature List.mem_cons_self)
    have ran := ih fun other mem => h other (List.mem_cons_of_mem feature mem)
    have given : consultValues cache feature (loadOne feature) w = .ok raw w := consult_known known
    simp only [List.mapM_cons, bind_apply, given, pure_apply, ran, List.map_cons, known,
      Option.getD_some]

end Cache

section Serving

variable {store cache : String} {groups : Groups} {adapter : Adapter} {rules : Rules} {w : World}
  {s : ReferenceState}

/-- A read behind the cache leaves the cache as it is, and as coherent. -/
theorem read_behind (cache : String)
    (h : ∀ frame, ServesExactly adapter rules (World.Holds store frame))
    (hm : Memoized store cache rules.refusesMissing groups w s) (r : Read α) :
    (rules.read r s = .ok (s.records.read r) s ∧
      ∃ w', adapter.read r w = .ok (s.records.read r) w' ∧
        Memoized store cache rules.refusesMissing groups w' s ∧ w'.cache cache = w.cache cache) ∨
    ∃ e, rules.read r s = .error e s ∧
      ∃ w', adapter.read r w = .error e w' ∧
        Memoized store cache rules.refusesMissing groups w' s ∧
          w'.cache cache = w.cache cache := by
  have ends := (h ⟨w.caches, w.overlapping, groups⟩).read r w s hm.holds
  rcases rules.read_keeps r s with given | ⟨e, refused⟩
  · rw [given] at ends
    obtain ⟨a, w', ran, rfl, holds⟩ := ends.of_ok
    exact .inl ⟨given, w', ran, hm.of_holds holds hm.distinct hm.coherent,
      holds.cache_eq cache⟩
  · rw [refused] at ends
    obtain ⟨w', ran, holds⟩ := ends.of_error
    exact .inr ⟨e, refused, w', ran, hm.of_holds holds hm.distinct hm.coherent,
      holds.cache_eq cache⟩

/-- What the two ends of a read through a cache have to have in common. -/
abbrev ReadEnds (store cache : String) (refuses : Bool) (groups : Groups) (r : Read α) :=
  Ends (ε := Failure) (fun (a b : α) w s => r.Alike a b ∧ Memoized store cache refuses groups w s)
    (Memoized store cache refuses groups)

variable (h : ∀ frame, ServesExactly adapter rules (World.Holds store frame))
  (hm : Memoized store cache rules.refusesMissing groups w s) (on : (w.cache cache).active = true)

include h hm on

theorem consultNames_ends :
    ReadEnds store cache rules.refusesMissing groups .features
      (Cache.consultNames cache (adapter.read .features) w) (rules.read .features s) := by
  have given : rules.read .features s = .ok s.records.names s := Rules.read_of_found fun _ => rfl
  rw [given, Cache.consultNames]
  cases known : (w.cache cache).names with
  | some names =>
    rw [Cache.consult_known known]
    exact ⟨hm.coherent.names names known, hm⟩
  | none =>
    rcases read_behind cache h hm .features with ⟨-, w', ran, hm', same⟩ | ⟨e, refused, -⟩
    · rw [Cache.consult_loaded known hm.coherent.failed ran]
      exact ⟨rfl, hm'.putCache (hm'.coherent.putNames (same ▸ on))⟩
    · cases given.symm.trans refused

theorem consultValues_ends (feature : String) :
    ReadEnds store cache rules.refusesMissing groups (.get feature)
      (Cache.consultValues cache feature (adapter.read (.get feature)) w)
      (rules.read (.get feature) s) := by
  rw [Cache.consultValues]
  cases known : (w.cache cache).values.find? feature with
  | some raw =>
    have given : rules.read (.get feature) s = .ok (s.records.readFeature feature) s := by
      refine Rules.read_of_found fun refusing => List.find?_eq_none.2 fun other mem => ?_
      rw [List.mem_singleton.1 mem, hm.coherent.existing feature refusing
        (Table.contains_of_find? known)]
      exact Bool.false_ne_true
    rw [given, Cache.consult_known known]
    exact ⟨hm.coherent.values feature raw known, hm⟩
  | none =>
    rcases read_behind cache h hm (.get feature) with ⟨given, w', ran, hm', same⟩ |
      ⟨e, refused, w', ran, hm', -⟩
    · rw [given, Cache.consult_loaded known hm.coherent.failed ran]
      refine ⟨rfl, hm'.putCache (hm'.coherent.putValues (same ▸ on) fun refusing => ?_)⟩
      exact Rules.contains_of_read refusing given feature List.mem_cons_self
    · rw [refused, Cache.consult_failed known hm.coherent.failed hm'.calm ran]
      exact ⟨rfl, hm'⟩

theorem consultEverything_ends :
    ReadEnds store cache rules.refusesMissing groups .getAll
      (Cache.consultEverything cache (adapter.read .getAll) w) (rules.read .getAll s) := by
  have given : rules.read .getAll s = .ok s.records.readAll s := Rules.read_of_found fun _ => rfl
  have all : s.records.readAll.rows.map (·.1) = s.records.rows.map (·.1) := by
    simp only [Records.readAll, Table.map, List.map_map, Function.comp_def]
  simp only [given, Cache.consultEverything, bind_apply, get_apply]
  cases known : (w.cache cache).everything? with
  | some raw =>
    refine ⟨?_, hm⟩
    unfold Cache.everything? at known
    split at known
    · obtain ⟨names, named, rfl⟩ := Option.map_eq_some_iff.1 known
      show (_ : List String).Perm _
      rw [all, hm.coherent.names names named, List.map_map]
      simpa [Function.comp_def] using Table.perm_names hm.distinct
    · cases known
  | none =>
    rcases read_behind cache h hm .getAll with ⟨-, w', ran, hm', same⟩ | ⟨e, refused, -⟩
    · simp only [bind_apply, ran, Run.modifyCache, modify_apply, pure_apply]
      refine ⟨Read.Alike.refl .getAll _, hm'.putCache ?_⟩
      exact hm'.coherent.putEverything (same ▸ on) hm'.distinct
    · cases given.symm.trans refused

/-- What is missing from a cache is loaded at once, and then all is known. -/
theorem consultMany_ends (features : List String) :
    ReadEnds store cache rules.refusesMissing groups (.getMulti features)
      (Cache.consultMany cache features (fun unknown => adapter.read (.getMulti unknown))
        (fun feature => adapter.read (.get feature)) w)
      (rules.read (.getMulti features) s) := by
  have ends := Rules.read_getMulti_alike rules s fun refusing =>
    Cache.missing?_unknown (fun feature => hm.coherent.existing feature refusing) features
  simp only [Cache.consultMany, bind_apply, get_apply]
  cases all : ((w.cache cache).unknown features).isEmpty with
  | true =>
    rw [List.isEmpty_iff.1 all] at ends
    have ran := Cache.mapM_known cache (fun feature => adapter.read (.get feature)) w
      fun feature mem => by
        have known := List.filter_eq_nil_iff.1 (List.isEmpty_iff.1 all) feature mem
        simpa using known
    rcases ends with ⟨-, given⟩ | ⟨e, refused, -⟩
    · simp only [given, ran, if_true, bind_apply, pure_apply]
      exact ⟨trivial, hm⟩
    · rw [Rules.read_of_found fun _ => rfl] at refused
      cases refused
  | false =>
    have behind := read_behind cache h hm (.getMulti ((w.cache cache).unknown features))
    rcases ends with ⟨ok, given⟩ | ⟨e, error, refused⟩
    · obtain ⟨-, w', ran, hm', same⟩ := behind.resolve_right fun ⟨e, error, _⟩ => by
        cases ok.symm.trans error
      have ran' := Cache.mapM_known cache (fun feature => adapter.read (.get feature))
        (w'.putCache cache ((w'.cache cache).putAllValues
          (s.records.read (.getMulti ((w.cache cache).unknown features)))))
        fun feature mem => by
          rw [World.cache_putCache, if_pos rfl, same]
          exact Cache.contains_loaded mem
      simp only [given, ran, Run.modifyCache, modify_apply, ran', Bool.false_eq_true, if_false,
        bind_apply, pure_apply]
      refine ⟨trivial, hm'.putCache (hm'.coherent.putAllValues (same ▸ on) ?_ ?_)⟩
      · intro row mem
        obtain ⟨feature, -, rfl⟩ := List.mem_map.1 (Table.mem_of_mem_ofRows mem)
        rfl
      · intro refusing row mem
        obtain ⟨feature, inside, rfl⟩ := List.mem_map.1 (Table.mem_of_mem_ofRows mem)
        exact Rules.contains_of_read refusing ok feature inside
    · rcases behind with ⟨ok, -⟩ | ⟨e', error', w', ran, hm', -⟩
      · cases ok.symm.trans error
      · cases error.symm.trans error'
        simp only [refused, ran, Bool.false_eq_true, if_false, bind_apply]
        exact ⟨rfl, hm'⟩

end Serving

/-! ## Serving -/

section Serving

variable {store cache : String} {groups : Groups} {adapter : Adapter} {rules : Rules}

/-- While the cache is off a read is answered exactly as behind it. -/
theorem memoizing_read_off (h : ∀ frame, ServesExactly adapter rules (World.Holds store frame))
    (r : Read α) :
    Matches (Switched false store cache rules.refusesMissing groups) Eq
      ((Adapter.memoizing cache adapter).read r) (rules.read r) := by
  rintro w s ⟨hm, off⟩
  show Ends _ _ (Cache.read cache adapter.read r w) _
  simp only [Cache.read, bind_apply, get_apply, off, Bool.false_eq_true, if_false]
  rcases read_behind cache h hm r with
    ⟨given, w', ran, hm', same⟩ | ⟨e, refused, w', ran, hm', same⟩
  · rw [ran, given]
    exact ⟨rfl, hm', same ▸ off⟩
  · rw [ran, refused]
    exact ⟨rfl, hm', same ▸ off⟩

theorem memoizing_read (h : ∀ frame, ServesExactly adapter rules (World.Holds store frame))
    (r : Read α) :
    Matches (Memoized store cache rules.refusesMissing groups) r.Alike
      ((Adapter.memoizing cache adapter).read r) (rules.read r) := by
  intro w s hm
  cases on : (w.cache cache).active with
  | false =>
    exact (memoizing_read_off h r w s ⟨hm, on⟩).mono
      (fun a _ _ _ ends => ⟨ends.1 ▸ Read.Alike.refl r a, ends.2.memoized⟩)
      fun _ _ held => held.memoized
  | true =>
    show Ends _ _ (Cache.read cache adapter.read r w) _
    simp only [Cache.read, bind_apply, get_apply, on, if_true]
    cases r with
    | features => exact consultNames_ends h hm on
    | get feature => exact consultValues_ends h hm on feature
    | getMulti features => exact consultMany_ends h hm on features
    | getAll => exact consultEverything_ends h hm on

/-- A write that is made drops what it may have changed; one that fails drops nothing. Neither
switches the cache. -/
theorem memoizing_write (h : ∀ frame, ServesExactly adapter rules (World.Holds store frame))
    (on : Bool) (feature : String) (write : Write) :
    Refines (fun v s => Switched on store cache rules.refusesMissing groups v s ∧
        write.Suits feature s.records)
      ((Adapter.memoizing cache adapter).write feature write) (rules.write feature write)
      (fun a b v s => a = b ∧ Switched on store cache rules.refusesMissing groups v s)
      (Switched on store cache rules.refusesMissing groups) := by
  rintro w s ⟨⟨hm, active⟩, suits⟩
  have ends := (h ⟨w.caches, w.overlapping, groups⟩).write feature write w s hm.holds
  simp only [Adapter.write, bind_apply]
  unfold Rules.write at ends ⊢
  rw [bind_apply] at ends ⊢
  rcases rules.guardWrite_keeps feature write s with passed | ⟨e, refused⟩
  · simp only [passed, Machine.file] at ends ⊢
    cases filed : (Filing.write feature write).run s.records with
    | ok made after =>
      rw [filed] at ends
      obtain ⟨a, w', ran, rfl, holds⟩ := ends.of_ok
      simp only [ran, Run.modifyCache, modify_apply, pure_apply]
      have dropped : (w'.putCache cache ((w'.cache cache).afterWrite feature write)).cache cache =
          (w.cache cache).afterWrite feature write := by
        rw [World.cache_putCache, if_pos rfl, holds.cache_eq cache]
      refine ⟨rfl, ⟨{ holds with caches := rfl, overlapping := rfl },
        holds.overlapping.trans hm.calm, (Filing.touched_of_made filed).distinct hm.distinct, ?_⟩,
        ?_⟩
      · rw [dropped]
        exact hm.coherent.afterWrite suits filed
      · rw [dropped, Cache.active_afterWrite]
        exact active
    | error failure after =>
      rw [filed] at ends
      obtain ⟨w', ran, holds⟩ := ends.of_error
      simp only [ran]
      exact ⟨rfl, hm.of_holds holds ((Filing.touched_of_failed filed).distinct hm.distinct)
        (hm.coherent.afterFailure suits filed), holds.cache_eq cache ▸ active⟩
  · simp only [refused] at ends ⊢
    obtain ⟨w', ran, holds⟩ := ends.of_error
    simp only [ran]
    exact ⟨rfl, hm.of_holds holds hm.distinct hm.coherent, holds.cache_eq cache ▸ active⟩

/-- A memoizing adapter serves whenever the one in it serves exactly. -/
theorem ServesExactly.memoizing (cache : String) (groups : Groups)
    (h : ∀ frame, ServesExactly adapter rules (World.Holds store frame)) :
    Serves (.memoizing cache adapter) rules (Memoized store cache rules.refusesMissing groups) where
  grounded := Memoized.grounded
  read := memoizing_read h
  write feature write w s hm :=
    (memoizing_write h (w.cache cache).active feature write w s ⟨⟨hm.1, rfl⟩, hm.2⟩).mono
      (fun _ _ _ _ ends => ⟨ends.1, ends.2.memoized⟩) fun _ _ held => held.memoized

/-- And does so while its cache is off. -/
theorem ServesExactly.memoizing_off (cache : String) (groups : Groups)
    (h : ∀ frame, ServesExactly adapter rules (World.Holds store frame)) :
    Serves (.memoizing cache adapter) rules
      (Switched false store cache rules.refusesMissing groups) where
  grounded := Switched.grounded
  read r := (memoizing_read_off h r).mono fun a _ same => same ▸ Read.Alike.refl r a
  write := memoizing_write h false

end Serving

end FeatureGates
