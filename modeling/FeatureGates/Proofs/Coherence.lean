import FeatureGates.Proofs.Filing

/-!
# Coherent caches

A cache is coherent with records if what it knows is so: the names are
those of the records, the values of a feature have the typed form that the
records give them, and, where missing features are refused, only features
that exist have known values (`Cache.Coherent`).

Whatever is put into a cache after a read keeps it coherent
(`Cache.Coherent.putNames`, `putValues`, `putAllValues`, `putEverything`).
Dropping what a write may have changed makes it coherent with the new
records (`Cache.Coherent.afterWrite`), and a write that fails leaves it
coherent as it is (`Cache.Coherent.afterFailure`).
-/

namespace FeatureGates

theorem Cache.active_afterWrite (cache : Cache) (feature : String) (w : Write) :
    (cache.afterWrite feature w).active = cache.active := by
  unfold Cache.afterWrite
  split
  · cases w <;> rfl
  · rfl

/-- What a cache knows is so. -/
structure Cache.Coherent (refuses : Bool) (cache : Cache) (records : Records) : Prop where
  idle : cache.active = false → cache = .idle
  failed : cache.failed = []
  names (names : NameSet) : cache.names = some names → names = records.names
  values (feature : String) (raw : Entries) : cache.values.find? feature = some raw →
    GateValues.ofEntries raw = GateValues.ofEntries (records.readFeature feature)
  existing (feature : String) : refuses = true → cache.values.contains feature = true →
    records.contains feature = true

namespace Cache.Coherent

variable {refuses : Bool} {cache : Cache} {records : Records}

theorem of_idle (refuses : Bool) (records : Records) : Cache.idle.Coherent refuses records where
  idle _ := rfl
  failed := rfl
  names _ h := nomatch h
  values _ _ h := nomatch h
  existing _ _ h := nomatch h

/-- Switching a cache on or off keeps it coherent. -/
theorem setActive (h : cache.Coherent refuses records) (active : Bool) :
    (cache.setActive active).Coherent refuses records := by
  cases active with
  | false => exact of_idle refuses records
  | true => exact ⟨nofun, h.failed, h.names, h.values, h.existing⟩

theorem putNames (h : cache.Coherent refuses records) (on : cache.active = true) :
    (cache.putNames records.names).Coherent refuses records where
  idle off := absurd (off.symm.trans on) Bool.false_ne_true
  failed := h.failed
  names _ known := (Option.some.inj known).symm
  values := h.values
  existing := h.existing

theorem putAllValues (h : cache.Coherent refuses records) (on : cache.active = true)
    {raw : RawFeatures}
    (hv : ∀ row ∈ raw.rows, row.2 = records.readFeature row.1)
    (he : refuses = true → ∀ row ∈ raw.rows, records.contains row.1 = true) :
    (cache.putAllValues raw).Coherent refuses records where
  idle off := absurd (off.symm.trans on) Bool.false_ne_true
  failed := h.failed
  names := h.names
  values feature found known := by
    rcases Table.find?_putAll known with loaded | known
    · exact congrArg GateValues.ofEntries (hv _ loaded)
    · exact h.values feature found known
  existing feature refusing known := by
    rcases Table.contains_putAll.1 known with loaded | known
    · obtain ⟨row, mem, rfl⟩ := List.mem_map.1 loaded
      exact he refusing row mem
    · exact h.existing feature refusing known

theorem putValues (h : cache.Coherent refuses records) (on : cache.active = true)
    {feature : String} (he : refuses = true → records.contains feature = true) :
    (cache.putValues feature (records.readFeature feature)).Coherent refuses records := by
  show (cache.putAllValues ⟨[(feature, records.readFeature feature)]⟩).Coherent refuses records
  refine putAllValues h on ?_ ?_
  · intro row mem
    rw [List.mem_singleton.1 mem]
  · intro refusing row mem
    rw [List.mem_singleton.1 mem]
    exact he refusing

theorem putEverything (h : cache.Coherent refuses records) (on : cache.active = true)
    (hd : records.Distinct) : (cache.putEverything records.readAll).Coherent refuses records := by
  have rows (row : String × Entries) (mem : row ∈ records.readAll.rows) :
      row.2 = records.readFeature row.1 ∧ records.contains row.1 = true := by
    obtain ⟨⟨feature, cells⟩, inside, rfl⟩ := List.mem_map.1 mem
    have found := Table.find?_of_mem hd inside
    refine ⟨?_, Table.contains_of_find? found⟩
    rw [Records.readFeature, found]
    rfl
  have loaded := (h.putAllValues on (fun row mem => (rows row mem).1)
    fun _ row mem => (rows row mem).2).putNames on
  have names : records.readAll.names = records.names := Table.names_map ..
  exact {
    idle := fun off => absurd (off.symm.trans on) Bool.false_ne_true
    failed := h.failed
    names := fun _ known => (Option.some.inj known).symm.trans names
    values := loaded.values
    existing := loaded.existing }

/-! ## Writes -/

theorem dropNames (h : cache.Coherent refuses records) (on : cache.active = true) :
    cache.dropNames.Coherent refuses records where
  idle off := absurd (off.symm.trans on) Bool.false_ne_true
  failed := h.failed
  names _ known := nomatch known
  values := h.values
  existing := h.existing

/-- Records that read the same are coherent with the same caches. -/
theorem congr {after : Records} (h : cache.Coherent refuses records)
    (hn : after.names = records.names)
    (ht : ∀ feature, GateValues.ofEntries (after.readFeature feature) =
      GateValues.ofEntries (records.readFeature feature))
    (hc : ∀ feature, after.contains feature = records.contains feature) :
    cache.Coherent refuses after where
  idle := h.idle
  failed := h.failed
  names names known := (h.names names known).trans hn.symm
  values feature raw known := (h.values feature raw known).trans (ht feature).symm
  existing feature refusing known := (hc feature).trans (h.existing feature refusing known)

/-- A write that fails leaves a cache coherent as it is. -/
theorem afterFailure {after : Records} {feature : String} {w : Write} {failure : Failure}
    (h : cache.Coherent refuses records) (hw : w.Suits feature records)
    (failed : Filing.write feature w records = .error failure after) :
    cache.Coherent refuses after := by
  have contains := Filing.contains_of_failed hw failed
  exact h.congr (Table.names_congr contains) (Filing.typed_of_failed failed) contains

/-- Without the values of a feature, a cache is coherent with whatever has
become of that feature, if the names have been dropped or are the same. -/
theorem dropValues {after : Records} {feature : String} (h : cache.Coherent refuses records)
    (on : cache.active = true) (ht : Records.Touched feature records after)
    (hn : cache.names = none ∨ after.names = records.names) :
    (cache.dropValues feature).Coherent refuses after where
  idle off := absurd (off.symm.trans on) Bool.false_ne_true
  failed := h.failed
  names names known := by
    rcases hn with none | same
    · exact nomatch none.symm.trans known
    · exact (h.names names known).trans same.symm
  values other raw known := by
    obtain ⟨different, known⟩ := Table.of_find?_erase known
    exact (h.values other raw known).trans (ht.typed different).symm
  existing other refusing known := by
    have known : (cache.values.erase feature).contains other = true := known
    rw [Table.contains_erase, Bool.and_eq_true, decide_eq_true_eq] at known
    rw [ht.contains other known.1]
    exact h.existing other refusing known.2

/-- Dropping what a write may have changed is enough. -/
theorem afterWrite {after : Records} {feature : String} {w : Write} {made : Bool}
    (h : cache.Coherent refuses records) (hw : w.Suits feature records)
    (done : Filing.write feature w records = .ok made after) :
    (cache.afterWrite feature w).Coherent refuses after := by
  have touched := Filing.touched_of_made done
  unfold Cache.afterWrite
  cases on : cache.active with
  | false =>
    rw [if_neg Bool.false_ne_true, h.idle on]
    exact of_idle refuses after
  | true =>
    rw [if_pos rfl]
    have gate (ha : w ≠ .add) (hr : w ≠ .remove) :
        (cache.dropValues feature).Coherent refuses after := by
      exact h.dropValues on touched (.inr (touched.names (Filing.contains_of_made hw ha hr done)))
    cases w with
    | add =>
      rw [Filing.write_add] at done
      cases done
      exact {
        idle := fun off => absurd (off.symm.trans on) Bool.false_ne_true
        failed := h.failed
        names := fun _ known => nomatch known
        values := fun other raw known => (h.values other raw known).trans
          (Records.typed_congr fun key => (Records.cell?_ensure ..).symm)
        existing := fun other refusing known => by
          rw [Records.contains_ensure, h.existing other refusing known, Bool.or_true] }
    | remove => exact (h.dropNames on).dropValues on touched (.inl rfl)
    | clear => exact gate nofun nofun
    | enable slot thing => exact gate nofun nofun
    | disable slot thing => exact gate nofun nofun

end Cache.Coherent

end FeatureGates
