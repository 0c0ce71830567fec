import FeatureGates.Proofs.Memoizing

/-!
# Caches that follow records

By itself, without flags in front of it, a memoizing adapter sees writes
that its cache is not told of. Enabling or disabling makes a feature exist
and drops only its values: a set of names that is cached by then lacks it.
A write that fails drops nothing, and may have changed the records. So a
cache can be behind the records, by *hidden* names and *stale* features
(`Lag`), and by no more than that: it *follows* them (`Cache.Follows`).

What a read puts into a cache lets it follow (`Cache.Follows.putNames`,
`putAllValues`, `putEverything`), and so does what a write takes out of it
(`Cache.Follows.afterWrite`, `afterFailure`). A read through a cache that
follows gives an answer that does (`Cache.consultRead_answers`), whatever
adapter reads from the store behind it (`Adapter.ReadsFrom`).
-/

namespace FeatureGates

variable {α : Type}

/-! ## Lag -/

/-- How far a cache is behind the records: the names that its set of names
lacks, if it has one, and the features that failed writes have changed. -/
structure Lag where
  hidden : Option (List String)
  stale : String → Prop

namespace Lag

def none : Lag := ⟨Option.none, fun _ => False⟩

/-- A read of the names gets them if there are none; one of everything gets all of them. -/
def afterRead (lag : Lag) : Read α → Lag
  | .features => { lag with hidden := some (lag.hidden.getD []) }
  | .get _ => lag
  | .getMulti _ => lag
  | .getAll => { lag with hidden := some [] }

/-- Adding and removing drop the names; any other write hides a feature that it makes exist. -/
def afterWrite (lag : Lag) (feature : String) (before after : Records) (w : Write) : Lag where
  hidden := match w with
    | .add => Option.none
    | .remove => Option.none
    | _ =>
      if after.contains feature && !before.contains feature then lag.hidden.map (feature :: ·)
      else lag.hidden
  stale := lag.stale

def afterFailure (lag : Lag) (before after : Records) : Lag where
  hidden := lag.hidden
  stale feature := lag.stale feature ∨ after.find? feature ≠ before.find? feature

end Lag

/-! ## Answers that follow -/

/-- All names but hidden ones; which of the stale ones is left open. -/
def NameSet.AllBut (stale : String → Prop) (names all : NameSet) (hidden : List String) : Prop :=
  ∀ name, ¬stale name → (name ∈ names ↔ name ∈ all ∧ name ∉ hidden)

/-- The same values under the same names but stale ones, in whatever order. -/
def Table.SameBut (stale : String → Prop) (a b : Table α) : Prop :=
  a.Distinct ∧ b.Distinct ∧ ∀ name, ¬stale name → a.find? name = b.find? name

/-- An answer that is behind another one by no more than a lag. -/
def Read.Follows (lag : Lag) : {α : Type} → Read α → α → α → Prop
  | _, .features, a, b => a.AllBut lag.stale b (lag.hidden.getD [])
  | _, .get feature, a, b => ¬lag.stale feature → a = b
  | _, .getMulti _, a, b => a.SameBut lag.stale b
  | _, .getAll, a, b => a.SameBut lag.stale b

namespace NameSet.AllBut

variable {stale : String → Prop} {names all : NameSet} {hidden : List String}

theorem refl (stale : String → Prop) (names : NameSet) : names.AllBut stale names [] :=
  fun _ _ => (and_iff_left List.not_mem_nil).symm

/-- Names that have changed only where they are stale. -/
theorem congr (h : names.AllBut stale all hidden) {all' : NameSet} {stale' : String → Prop}
    (fresh : ∀ name, ¬stale' name → ¬stale name ∧ (name ∈ all' ↔ name ∈ all)) :
    names.AllBut stale' all' hidden := by
  intro name isFresh
  rw [(fresh name isFresh).2]
  exact h name (fresh name isFresh).1

/-- A name that comes into being is hidden. -/
theorem hide (h : names.AllBut stale all hidden) {all' : NameSet} {feature : String}
    (new : feature ∉ all) (others : ∀ name, name ≠ feature → (name ∈ all' ↔ name ∈ all)) :
    names.AllBut stale all' (feature :: hidden) := by
  intro name fresh
  rw [h name fresh, List.mem_cons, not_or]
  by_cases own : name = feature
  · rw [own]
    exact iff_of_false (fun both => new both.1) fun both => both.2.1 rfl
  · rw [others name own]
    exact and_congr_right fun _ => (and_iff_right own).symm

end NameSet.AllBut

namespace Records

variable {records after : Records} {feature other : String}

theorem readFeature_congr (h : after.find? other = records.find? other) :
    after.readFeature other = records.readFeature other := by
  rw [readFeature, readFeature, h]

theorem mem_names_congr (h : after.find? other = records.find? other) :
    other ∈ after.names ↔ other ∈ records.names := by
  rw [Table.mem_names, Table.mem_names, Table.contains, Table.contains, h]

/-- A feature that is new has no values. -/
theorem readFeature_ensure (records : Records) (feature other : String) :
    (records.ensure feature).readFeature other = records.readFeature other := by
  by_cases own : other = feature
  · subst own
    unfold ensure
    cases found : records.contains other with
    | true => rfl
    | false =>
      rw [if_neg Bool.false_ne_true, readFeature, readFeature, Table.find?_put, if_pos rfl,
        Table.find?_eq_none found]
      rfl
  · exact readFeature_congr (records.find?_ensure own)

theorem find?_readAll (records : Records) (feature : String) :
    records.readAll.find? feature =
      if records.contains feature then some (records.readFeature feature) else none := by
  rw [readAll, Table.find?_map, Table.contains, readFeature]
  cases records.find? feature <;> rfl

theorem distinct_readAll (h : records.Distinct) : records.readAll.Distinct :=
  Table.distinct_map _ h

end Records

/-- Without a set of names that lacks any, what the records say follows themselves. -/
theorem Read.Follows.of_records {lag : Lag} (hl : lag.hidden = none) {records : Records}
    (hd : records.Distinct) (r : Read α) : r.Follows lag (records.read r) (records.read r) := by
  cases r with
  | features =>
    show NameSet.AllBut _ _ _ (lag.hidden.getD [])
    rw [hl]
    exact NameSet.AllBut.refl lag.stale records.names
  | get feature => exact fun _ => rfl
  | getMulti features => exact ⟨Table.distinct_ofRows _, Table.distinct_ofRows _, fun _ _ => rfl⟩
  | getAll => exact ⟨Records.distinct_readAll hd, Records.distinct_readAll hd, fun _ _ => rfl⟩

/-! ## Following -/

/-- What a cache knows is what the records say, its lag aside. -/
structure Cache.Follows (lag : Lag) (cache : Cache) (records : Records) : Prop where
  names : Option.Rel (NameSet.AllBut lag.stale · records.names ·) cache.names lag.hidden
  values (feature : String) (raw : Entries) : ¬lag.stale feature →
    cache.values.find? feature = some raw → raw = records.readFeature feature
  all_shown : cache.complete = true → lag.hidden = some []
  all_known (feature : String) : cache.complete = true → ¬lag.stale feature →
    records.contains feature = true → cache.values.contains feature = true

namespace Cache.Follows

variable {lag : Lag} {cache : Cache} {records : Records}

/-- A cache that knows nothing is not wrong about anything. -/
theorem unknowing (stale : String → Prop) (records : Records) :
    Cache.idle.Follows ⟨none, stale⟩ records where
  names := .none
  values _ _ _ known := nomatch known
  all_shown complete := nomatch complete
  all_known _ complete := nomatch complete

theorem of_idle (records : Records) : Cache.idle.Follows .none records :=
  unknowing _ records

/-- A cache may be taken to be further behind than it is. -/
theorem mono {stale : String → Prop} (h : cache.Follows lag records)
    (hs : ∀ feature, lag.stale feature → stale feature) :
    cache.Follows ⟨lag.hidden, stale⟩ records where
  names := by
    show Option.Rel _ cache.names lag.hidden
    have names := h.names
    cases cached : cache.names with
    | none =>
      rw [cached] at names
      cases hidden : lag.hidden with
      | none => exact .none
      | some lacking =>
        rw [hidden] at names
        cases names
    | some known =>
      rw [cached] at names
      cases hidden : lag.hidden with
      | none =>
        rw [hidden] at names
        cases names
      | some lacking =>
        rw [hidden] at names
        cases names with
        | some all => exact .some fun name fresh => all name fun old => fresh (hs name old)
  values feature raw fresh := h.values feature raw fun old => fresh (hs feature old)
  all_shown := h.all_shown
  all_known feature complete fresh :=
    h.all_known feature complete fun old => fresh (hs feature old)

theorem hidden_of_unknown (h : cache.Follows lag records) (unknown : cache.names = none) :
    lag.hidden = none := by
  have names := h.names
  rw [unknown] at names
  cases hidden : lag.hidden with
  | none => rfl
  | some lacking =>
    rw [hidden] at names
    cases names

theorem hidden_of_known (h : cache.Follows lag records) {names : NameSet}
    (known : cache.names = some names) :
    ∃ hidden, lag.hidden = some hidden ∧ names.AllBut lag.stale records.names hidden := by
  have follows := h.names
  rw [known] at follows
  cases hidden : lag.hidden with
  | none =>
    rw [hidden] at follows
    cases follows
  | some lacking =>
    rw [hidden] at follows
    cases follows with
    | some follows => exact ⟨lacking, rfl, follows⟩

/-- What is known of a feature that is not stale is given. -/
theorem known (h : cache.Follows lag records) {feature : String} (fresh : ¬lag.stale feature)
    (hc : cache.values.contains feature = true) :
    (cache.values.find? feature).getD [] = records.readFeature feature := by
  obtain ⟨raw, found⟩ := Option.isSome_iff_exists.1 hc
  rw [found]
  exact h.values feature raw fresh found

/-! ### Reads -/

theorem putNames (h : cache.Follows lag records) (unknown : cache.names = none) :
    (cache.putNames records.names).Follows (lag.afterRead .features) records := by
  have none := h.hidden_of_unknown unknown
  have shown : (lag.afterRead .features).hidden = some [] := by
    rw [Lag.afterRead, none]
    rfl
  exact {
    names := shown ▸ .some (NameSet.AllBut.refl lag.stale records.names)
    values := h.values
    all_shown := fun _ => shown
    all_known := h.all_known }

theorem putAllValues (h : cache.Follows lag records) {raw : RawFeatures}
    (hv : ∀ row ∈ raw.rows, row.2 = records.readFeature row.1) :
    (cache.putAllValues raw).Follows lag records where
  names := h.names
  values feature found fresh known := by
    rcases Table.find?_putAll known with loaded | known
    · exact hv _ loaded
    · exact h.values feature found fresh known
  all_shown := h.all_shown
  all_known feature complete fresh there :=
    Table.contains_putAll.2 (.inr (h.all_known feature complete fresh there))

theorem putValues (h : cache.Follows lag records) (feature : String) :
    (cache.putValues feature (records.readFeature feature)).Follows lag records := by
  show (cache.putAllValues ⟨[(feature, records.readFeature feature)]⟩).Follows lag records
  refine h.putAllValues ?_
  intro row mem
  rw [List.mem_singleton.1 mem]

theorem putEverything (h : cache.Follows lag records) (hd : records.Distinct) :
    (cache.putEverything records.readAll).Follows (lag.afterRead .getAll) records := by
  have rows (row : String × Entries) (mem : row ∈ records.readAll.rows) :
      row.2 = records.readFeature row.1 := by
    have found := Table.find?_of_mem (Records.distinct_readAll hd) mem
    rw [Records.find?_readAll] at found
    split at found
    · exact (Option.some.inj found).symm
    · cases found
  have names : records.readAll.names = records.names := Table.names_map ..
  exact {
    names := .some (names.symm ▸ NameSet.AllBut.refl lag.stale records.names)
    values := (h.putAllValues rows).values
    all_shown := fun _ => rfl
    all_known := fun feature _ _ there => by
      rw [← Table.mem_names, ← names] at there
      exact Table.contains_putAll.2 (.inl (NameSet.mem_ofList.1 there)) }

/-- A cache that knows that it has everything answers with everything. -/
theorem everything (h : cache.Follows lag records) (hd : records.Distinct) {raw : RawFeatures}
    (known : cache.everything? = some raw) :
    lag.hidden = some [] ∧ raw.SameBut lag.stale records.readAll := by
  unfold Cache.everything? at known
  split at known
  · rename_i complete
    obtain ⟨names, named, rfl⟩ := Option.map_eq_some_iff.1 known
    obtain ⟨hidden, lacking, all⟩ := h.hidden_of_known named
    have shown := h.all_shown complete
    obtain rfl : hidden = [] := Option.some.inj (lacking.symm.trans shown)
    refine ⟨shown, ?_, Records.distinct_readAll hd, fun feature fresh => ?_⟩
    · simpa only [Table.Distinct, List.map_map, Function.comp_def, List.map_id'] using names.nodup
    · have listed : feature ∈ names.names ↔ records.contains feature = true :=
        (all feature fresh).trans ((and_iff_left List.not_mem_nil).trans Table.mem_names)
      rw [Records.find?_readAll, Table.find?, Table.lookup_map_names]
      simp only [listed]
      split
      · rename_i there
        rw [h.known fresh (h.all_known feature complete fresh there)]
      · rfl
  · cases known

/-- A cache that is switched on follows as it did before. -/
theorem setActive (h : cache.Follows lag records) {active : Bool}
    (on : (cache.setActive active).active = true) :
    (cache.setActive active).Follows lag records := by
  cases active with
  | true => exact ⟨h.names, h.values, h.all_shown, h.all_known⟩
  | false => cases on

/-! ### Writes -/

/-- Without the values of a feature, a cache follows what has become of that
feature, if its names do. -/
theorem dropValues {after : Records} {feature : String} (h : cache.Follows lag records)
    (ho : ∀ other, other ≠ feature → after.find? other = records.find? other)
    {known : Option NameSet} {hidden : Option (List String)}
    (hn : Option.Rel (NameSet.AllBut lag.stale · after.names ·) known hidden) :
    ({ cache with names := known }.dropValues feature).Follows ⟨hidden, lag.stale⟩ after where
  names := hn
  values other raw fresh known := by
    obtain ⟨different, known⟩ := Table.of_find?_erase known
    rw [Records.readFeature_congr (ho other different)]
    exact h.values other raw fresh known
  all_shown complete := nomatch complete
  all_known _ complete := nomatch complete

/-- The names of a cache go on to follow if those that come into being are hidden. -/
theorem names_afterWrite (h : cache.Follows lag records) {feature : String} {after : Records}
    {w : Write} {made : Bool} (ha : w ≠ .add) (hr : w ≠ .remove)
    (done : Filing.write feature w records = .ok made after) :
    Option.Rel (NameSet.AllBut lag.stale · after.names ·) cache.names
      (lag.afterWrite feature records after w).hidden := by
  have others (name : String) (ho : name ≠ feature) : name ∈ after.names ↔ name ∈ records.names :=
    Records.mem_names_congr (Filing.find?_of_made done ho)
  have stays (there : records.contains feature = true) : after.contains feature = true := by
    have kept := Filing.keeps_contains feature hr records there
    rwa [done] at kept
  have unfolded : (lag.afterWrite feature records after w).hidden =
      if after.contains feature && !records.contains feature then lag.hidden.map (feature :: ·)
      else lag.hidden := by
    cases w with
    | add => exact absurd rfl ha
    | remove => exact absurd rfl hr
    | clear => rfl
    | enable slot thing => rfl
    | disable slot thing => rfl
  rw [unfolded]
  cases cached : cache.names with
  | none =>
    rw [h.hidden_of_unknown cached]
    split <;> exact .none
  | some names =>
    obtain ⟨hidden, lacking, all⟩ := h.hidden_of_known cached
    rw [lacking]
    split
    · rename_i new
      rw [Bool.and_eq_true, Bool.not_eq_true', ← Bool.not_eq_true] at new
      exact .some (all.hide (fun there => new.2 (Table.mem_names.1 there)) others)
    · rename_i old
      refine .some (all.congr fun name fresh => ⟨fresh, ?_⟩)
      by_cases own : name = feature
      · rw [own, Table.mem_names, Table.mem_names]
        cases there : records.contains feature with
        | true => exact iff_of_true (stays there) rfl
        | false => simpa [there] using old
      · exact others name own

/-- Dropping what a write may have changed is enough, names that it hides aside. -/
theorem afterWrite {after : Records} {feature : String} {w : Write} {made : Bool}
    (h : cache.Follows lag records) (on : cache.active = true)
    (done : Filing.write feature w records = .ok made after) :
    (cache.afterWrite feature w).Follows (lag.afterWrite feature records after w) after := by
  have ho (other : String) (different : other ≠ feature) := Filing.find?_of_made done different
  have gate (ha : w ≠ .add) (hr : w ≠ .remove) :
      (cache.dropValues feature).Follows (lag.afterWrite feature records after w) after :=
    h.dropValues ho (h.names_afterWrite ha hr done)
  unfold Cache.afterWrite
  rw [if_pos on]
  cases w with
  | add =>
    rw [Filing.write_add] at done
    cases done
    exact {
      names := .none
      values := fun other raw fresh known =>
        (h.values other raw fresh known).trans (records.readFeature_ensure feature other).symm
      all_shown := fun complete => nomatch complete
      all_known := fun _ complete => nomatch complete }
  | remove => exact h.dropValues ho .none
  | clear => exact gate nofun nofun
  | enable slot thing => exact gate nofun nofun
  | disable slot thing => exact gate nofun nofun

/-- What a write that failed has changed is stale. -/
theorem afterFailure (h : cache.Follows lag records) (after : Records) :
    cache.Follows (lag.afterFailure records after) after := by
  have fresh (feature : String) (hf : ¬(lag.afterFailure records after).stale feature) :
      ¬lag.stale feature ∧ after.find? feature = records.find? feature := by
    obtain ⟨fresh, same⟩ := not_or.1 hf
    exact ⟨fresh, Classical.not_not.1 same⟩
  exact {
    names := by
      show Option.Rel _ cache.names lag.hidden
      cases cached : cache.names with
      | none =>
        rw [h.hidden_of_unknown cached]
        exact .none
      | some names =>
        obtain ⟨hidden, lacking, all⟩ := h.hidden_of_known cached
        rw [lacking]
        exact .some (all.congr fun name hf =>
          ⟨(fresh name hf).1, Records.mem_names_congr (fresh name hf).2⟩)
    values := fun feature raw hf known => by
      rw [Records.readFeature_congr (fresh feature hf).2]
      exact h.values feature raw (fresh feature hf).1 known
    all_shown := h.all_shown
    all_known := fun feature complete hf there => by
      rw [Table.contains, (fresh feature hf).2] at there
      exact h.all_known feature complete (fresh feature hf).1 there }

end Cache.Follows

/-! ## A store behind a cache -/

/-- A cache as it is between reads: nothing of a failed one, and nothing at all if it is off. -/
structure Cache.Tidy (cache : Cache) : Prop where
  failed : cache.failed = []
  idle : cache.active = false → cache = .idle

namespace Cache.Tidy

variable {cache : Cache}

theorem of_active (on : cache.active = true) (failed : cache.failed = []) : cache.Tidy :=
  ⟨failed, fun off => absurd (off.symm.trans on) Bool.false_ne_true⟩

theorem of_idle : Cache.idle.Tidy := ⟨rfl, fun _ => rfl⟩

theorem setActive (h : cache.Tidy) (active : Bool) : (cache.setActive active).Tidy := by
  cases active with
  | false => exact of_idle
  | true => exact of_active rfl h.failed

theorem afterWrite (h : cache.Tidy) (feature : String) (w : Write) :
    (cache.afterWrite feature w).Tidy := by
  cases on : cache.active with
  | false =>
    rw [h.idle on]
    exact of_idle
  | true =>
    refine of_active ((cache.active_afterWrite feature w).trans on) ?_
    unfold Cache.afterWrite
    rw [if_pos on]
    cases w <;> exact h.failed

end Cache.Tidy

/-- A world in which a store can be reached, with a cache in front of it. -/
structure World.Fronted (store cache : String) (world : World) (records : Records) : Prop where
  held : (world.store store).records = records
  available : ∀ count operation, (world.store store).outage count operation = none
  calm : world.overlapping = false
  distinct : records.Distinct
  tidy : (world.cache cache).Tidy

namespace World.Fronted

variable {store cache : String} {w : World} {records : Records}

theorem putCache (h : w.Fronted store cache records) {known : Cache} (tidy : known.Tidy) :
    (w.putCache cache known).Fronted store cache records where
  held := h.held
  available := h.available
  calm := h.calm
  distinct := h.distinct
  tidy := by
    rw [World.cache_putCache, if_pos rfl]
    exact tidy

/-- Whatever leaves the caches alone leaves the store behind its cache. -/
theorem of_holds (h : w.Fronted store cache records) {w' : World} {after : Records}
    (hw : w'.Holds store ⟨w.caches, w.overlapping, w.groups⟩ ⟨after, w.surroundings, w.groups⟩)
    (hd : after.Distinct) :
    w'.Fronted store cache after ∧ w'.cache cache = w.cache cache := by
  have same : w'.cache cache = w.cache cache := hw.cache_eq cache
  exact ⟨⟨hw.records, hw.available, hw.overlapping.trans h.calm, hd, same ▸ h.tidy⟩, same⟩

theorem holds (h : w.Fronted store cache records) :
    w.Holds store ⟨w.caches, w.overlapping, w.groups⟩ ⟨records, w.surroundings, w.groups⟩ :=
  h.held ▸ World.holds_self h.available

/-- A read of the store behind its cache. -/
theorem read (h : w.Fronted store cache records) (name : String) (r : Read α) :
    ∃ w', (Adapter.memory store name).read r w = .ok (records.read r) w' ∧
      w'.Fronted store cache records ∧ w'.cache cache = w.cache cache := by
  obtain ⟨w', ran, holds⟩ := read_memory name h.holds r
  exact ⟨w', ran, h.of_holds holds h.distinct⟩

end World.Fronted

/-- An adapter is answered with what a store holds, and leaves the cache in front of that alone. -/
def Adapter.ReadsFrom (adapter : Adapter) (store cache : String) : Prop :=
  ∀ {w : World} {records : Records} {α : Type} (r : Read α), w.Fronted store cache records →
    ∃ w', adapter.read r w = .ok (records.read r) w' ∧ w'.Fronted store cache records ∧
      w'.cache cache = w.cache cache

theorem Adapter.readsFrom_memory (store name cache : String) :
    (Adapter.memory store name).ReadsFrom store cache := fun r h => h.read name r

/-- A read is answered. If the cache follows then so does the answer, and the
cache goes on to while it is active. -/
def Read.Answers (store cache : String) (records : Records) (r : Read α) (run : Run α)
    (w : World) : Prop :=
  ∃ a w', run w = .ok a w' ∧ w'.Fronted store cache records ∧
    ∀ lag : Lag, (w.cache cache).Follows lag records →
      ((w'.cache cache).active = true → (w'.cache cache).Follows (lag.afterRead r) records) ∧
        r.Follows lag a (records.read r)

namespace Cache

variable {store cache : String} {w : World} {records : Records}
  (h : w.Fronted store cache records) {inner : Adapter} (hin : inner.ReadsFrom store cache)
  (on : (w.cache cache).active = true)

include h hin on

theorem consultNames_answers :
    Read.features.Answers store cache records
      (consultNames cache (inner.read .features)) w := by
  cases known : (w.cache cache).names with
  | some names =>
    refine ⟨names, w, consult_known known, h, fun lag follows => ?_⟩
    obtain ⟨hidden, lacking, all⟩ := follows.hidden_of_known known
    have same : lag.afterRead .features = lag := by
      rw [Lag.afterRead, lacking, Option.getD_some, ← lacking]
    refine ⟨fun _ => same.symm ▸ follows, ?_⟩
    show NameSet.AllBut _ _ _ (lag.hidden.getD [])
    rw [lacking]
    exact all
  | none =>
    obtain ⟨w', ran, fronted, same⟩ := hin .features h
    refine ⟨records.names, _, consult_loaded known h.tidy.failed ran, ?_, fun lag follows => ?_⟩
    · rw [same]
      exact fronted.putCache (.of_active on h.tidy.failed)
    · rw [World.cache_putCache, if_pos rfl, same]
      exact ⟨fun _ => follows.putNames known,
        .of_records (follows.hidden_of_unknown known) h.distinct .features⟩

theorem consultValues_answers (feature : String) :
    (Read.get feature).Answers store cache records
      (consultValues cache feature (inner.read (.get feature))) w := by
  cases known : (w.cache cache).values.find? feature with
  | some raw =>
    refine ⟨raw, w, consult_known known, h, fun lag follows => ?_⟩
    exact ⟨fun _ => follows, fun fresh => follows.values feature raw fresh known⟩
  | none =>
    obtain ⟨w', ran, fronted, same⟩ := hin (.get feature) h
    refine ⟨_, _, consult_loaded known h.tidy.failed ran, ?_, fun lag follows => ?_⟩
    · rw [same]
      exact fronted.putCache (.of_active on h.tidy.failed)
    · rw [World.cache_putCache, if_pos rfl, same]
      exact ⟨fun _ => follows.putValues feature, fun _ => rfl⟩

theorem consultEverything_answers :
    Read.getAll.Answers store cache records
      (consultEverything cache (inner.read .getAll)) w := by
  simp only [Read.Answers, consultEverything, bind_apply, get_apply]
  cases known : (w.cache cache).everything? with
  | some raw =>
    refine ⟨raw, w, rfl, h, fun lag follows => ?_⟩
    obtain ⟨shown, all⟩ := follows.everything h.distinct known
    have same : lag.afterRead .getAll = lag := by
      rw [Lag.afterRead, ← shown]
    exact ⟨fun _ => same.symm ▸ follows, all⟩
  | none =>
    obtain ⟨w', ran, fronted, same⟩ := hin .getAll h
    simp only [bind_apply, ran, Run.modifyCache, modify_apply, pure_apply, same]
    refine ⟨_, _, rfl, fronted.putCache (.of_active on h.tidy.failed), fun lag follows => ?_⟩
    rw [World.cache_putCache, if_pos rfl]
    have distinct := Records.distinct_readAll h.distinct
    exact ⟨fun _ => follows.putEverything h.distinct, distinct, distinct, fun _ _ => rfl⟩

theorem consultMany_answers (features : List String) :
    (Read.getMulti features).Answers store cache records
      (consultMany cache features
        (fun unknown => inner.read (.getMulti unknown))
        (fun feature => inner.read (.get feature))) w := by
  -- what is known of the features in the end, in a world that knows all of them
  have given {v : World} (all : ∀ f ∈ features, (v.cache cache).values.contains f = true)
      {lag : Lag} (follows : (v.cache cache).Follows lag records) :
      (Table.ofRows (features.map fun f => (f, ((v.cache cache).values.find? f).getD []))).SameBut
        lag.stale (records.read (.getMulti features)) := by
    refine ⟨Table.distinct_ofRows _, Table.distinct_ofRows _, fun feature fresh => ?_⟩
    rw [Records.read, Table.find?_ofRows_map, Table.find?_ofRows_map]
    split
    · rename_i mem
      rw [follows.known fresh (all feature mem)]
    · rfl
  simp only [Read.Answers, consultMany, bind_apply, get_apply]
  cases none : ((w.cache cache).unknown features).isEmpty with
  | true =>
    have all (feature : String) (mem : feature ∈ features) :
        (w.cache cache).values.contains feature = true := by
      simpa using List.filter_eq_nil_iff.1 (List.isEmpty_iff.1 none) feature mem
    have ran := mapM_known cache (fun feature => inner.read (.get feature))
      w all
    simp only [if_true, bind_apply, pure_apply, ran]
    exact ⟨_, _, rfl, h, fun lag follows => ⟨fun _ => follows, given all follows⟩⟩
  | false =>
    obtain ⟨w', ran, fronted, same⟩ :=
      hin (.getMulti ((w.cache cache).unknown features)) h
    let loaded := w'.putCache cache ((w.cache cache).putAllValues
      (records.read (.getMulti ((w.cache cache).unknown features))))
    have cached : loaded.cache cache = (w.cache cache).putAllValues
        (records.read (.getMulti ((w.cache cache).unknown features))) := by
      rw [World.cache_putCache, if_pos rfl]
    have all (feature : String) (mem : feature ∈ features) :
        (loaded.cache cache).values.contains feature = true := by
      rw [cached]
      exact contains_loaded mem
    have ran' := mapM_known cache (fun feature => inner.read (.get feature))
      loaded all
    simp only [Bool.false_eq_true, if_false, bind_apply, ran, Run.modifyCache, modify_apply, same,
      pure_apply]
    rw [ran']
    refine ⟨_, loaded, rfl, fronted.putCache (.of_active on h.tidy.failed),
      fun lag follows => ?_⟩
    have follows : (loaded.cache cache).Follows lag records := by
      rw [cached]
      refine follows.putAllValues fun row mem => ?_
      obtain ⟨feature, -, rfl⟩ := List.mem_map.1 (Table.mem_of_mem_ofRows mem)
      rfl
    exact ⟨fun _ => follows, given all follows⟩

/-- A read through an active cache that follows is answered with what the
records say, hidden names aside. -/
theorem consultRead_answers (r : Read α) :
    r.Answers store cache records (consultRead cache inner.read r) w := by
  cases r with
  | features => exact consultNames_answers h hin on
  | get feature => exact consultValues_answers h hin on feature
  | getMulti features => exact consultMany_answers h hin on features
  | getAll => exact consultEverything_answers h hin on

end Cache

namespace World.Fronted

variable {store cache : String} {w : World} {records : Records}

/-- A memoizing adapter whose cache follows answers with what the records say,
hidden names aside. -/
theorem read_behind (h : w.Fronted store cache records) {inner : Adapter}
    (hin : inner.ReadsFrom store cache) (r : Read α) :
    r.Answers store cache records ((Adapter.memoizing cache inner).read r) w := by
  show r.Answers store cache records (Cache.read cache inner.read r) w
  unfold Read.Answers
  simp only [Cache.read, bind_apply, get_apply]
  cases on : (w.cache cache).active with
  | true =>
    rw [if_pos rfl]
    exact Cache.consultRead_answers h hin on r
  | false =>
    rw [if_neg Bool.false_ne_true]
    obtain ⟨w', ran, fronted, same⟩ := hin r h
    refine ⟨_, w', ran, fronted, fun lag follows => ⟨fun on' => ?_, ?_⟩⟩
    · rw [same, on] at on'
      cases on'
    · rw [h.tidy.idle on] at follows
      exact .of_records (follows.hidden_of_unknown rfl) h.distinct r

theorem read_memoizing (h : w.Fronted store cache records) (name : String) (r : Read α) :
    r.Answers store cache records ((Adapter.memoizing cache (.memory store name)).read r) w :=
  h.read_behind (Adapter.readsFrom_memory store name cache) r

/-- A write through a memoizing adapter is made, or fails, as it is in the
records; the cache is told of it only if it is made. -/
theorem write_memoizing (h : w.Fronted store cache records) (name feature : String)
    (write : Write) :
    match Filing.write feature write records with
    | .ok made after => ∃ w',
        (Adapter.memoizing cache (.memory store name)).write feature write w = .ok made w' ∧
          w'.Fronted store cache after ∧
            w'.cache cache = (w.cache cache).afterWrite feature write
    | .error failure after => ∃ w',
        (Adapter.memoizing cache (.memory store name)).write feature write w = .error failure w' ∧
          w'.Fronted store cache after ∧ w'.cache cache = w.cache cache := by
  have ends := write_memory name h.holds feature write
  have distinct := Filing.keeps_distinct feature write records h.distinct
  rw [Adapter.write]
  cases filed : Filing.write feature write records with
  | ok made after =>
    simp only [filed] at ends distinct
    obtain ⟨w', ran, holds⟩ := ends
    obtain ⟨fronted, same⟩ := h.of_holds holds distinct
    simp only [bind_apply, ran, Run.modifyCache, modify_apply, pure_apply, same]
    refine ⟨_, rfl, fronted.putCache (h.tidy.afterWrite feature write), ?_⟩
    rw [World.cache_putCache, if_pos rfl]
  | error failure after =>
    simp only [filed] at ends distinct
    obtain ⟨w', ran, holds⟩ := ends
    simp only [bind_apply, ran]
    exact ⟨w', rfl, h.of_holds holds distinct⟩

/-- Any cache may be switched on or off. -/
theorem switch (h : w.Fronted store cache records) (other : String) (active : Bool) :
    (w.putCache other ((w.cache other).setActive active)).Fronted store cache records where
  held := h.held
  available := h.available
  calm := h.calm
  distinct := h.distinct
  tidy := by
    rw [World.cache_putCache]
    split
    · rename_i own
      exact own ▸ h.tidy.setActive active
    · exact h.tidy

end World.Fronted

end FeatureGates
