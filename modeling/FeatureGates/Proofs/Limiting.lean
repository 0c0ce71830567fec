import FeatureGates.Proofs.Editing
import FeatureGates.Proofs.Lasting
import FeatureGates.Proofs.Oversize
import FeatureGates.Proofs.Readability
import Mathlib.Data.List.Perm.Subperm

/-!
# The limit on actors

A limit is put around a store in memory, and both are used, directly and by
flags, in any order. However many requests there are, met or refused, no
feature comes to have more actors than the limit, unless it had them at the
start (`FlagSet.actor_limit_holds`). It is an induction over the requests;
what each of them keeps is that every cell of actors is within the limit as
far as it was at first (`Cell.Capped`). Only one kind of write puts something
into such a cell, and before it the actors are counted.

Another actor is refused over the limit just to features that have as many
as they may, and then nothing has changed. That is so of a demand of a flag
as well (`CapsActors`), though it adds the feature before it is counted.

Actors are counted as they are read, by their different texts. In a store
whose sets are such as stores make them, of texts that come once, that is the
number of members (`Cell.actorCount_of_holds`).
-/

namespace FeatureGates

variable {α β : Type}

/-! ## Counting -/

namespace NameSet

theorem size_le_of_subset {names : NameSet} (texts : List String)
    (h : ∀ name ∈ names, name ∈ texts) : names.size ≤ texts.length :=
  (names.nodup.subperm h).length_le

theorem size_ofList {texts : List String} (distinct : texts.Nodup) :
    (ofList texts).size = texts.length := by
  have perm : (ofList texts).names.Perm texts :=
    (List.perm_ext_iff_of_nodup (ofList texts).nodup distinct).2 fun _ => mem_ofList
  exact perm.length_eq

end NameSet

namespace Raw

/-- How many names a raw value stands for: as many as are read, or as it has items if one of these
has no text. -/
def count (value : Value) : Nat :=
  match toNames value with
  | .ok names => names.size
  | .error _ => ((items? value).getD []).length

variable {items : List Value} {names : NameSet}

theorem count_of_names {value : Value} (read : toNames value = .ok names) :
    count value = names.size := by
  unfold count
  rw [read]

theorem count_le_length (items : List Value) : count (.set items) ≤ items.length := by
  unfold count
  cases read : toNames (.set items) with
  | error failure => exact Nat.le_refl _
  | ok names =>
    have shown : ∀ name ∈ names, name ∈ items.filterMap fun item => item.shown.toOption := by
      intro name mem
      obtain ⟨item, inside, shown⟩ := (mem_toNames rfl read).1 mem
      exact List.mem_filterMap.2 ⟨item, inside, by rw [shown]; rfl⟩
    exact Nat.le_trans (NameSet.size_le_of_subset _ shown) (List.length_filterMap_le _ _)

/-- What is taken out of a set does not make it stand for more. -/
theorem count_filter_le (p : Value → Bool) (items : List Value) :
    count (.set (items.filter p)) ≤ count (.set items) := by
  cases read : toNames (.set items) with
  | error failure =>
    calc count (.set (items.filter p))
        ≤ (items.filter p).length := count_le_length _
      _ ≤ items.length := List.length_filter_le p items
      _ = count (.set items) := by
        unfold count
        rw [read]
        rfl
  | ok names =>
    have shown := exists_toNames_set.1 ⟨names, read⟩
    obtain ⟨left, read'⟩ := exists_toNames_set.2 fun item mem =>
      shown item (List.mem_filter.1 mem).1
    rw [count_of_names read, count_of_names read']
    refine NameSet.size_le_of_subset _ fun name mem => (mem_toNames rfl read).2 ?_
    obtain ⟨item, inside, text⟩ := (mem_toNames rfl read').1 mem
    exact ⟨item, (List.mem_filter.1 inside).1, text⟩

/-- One more text makes a set stand for one more name at most. -/
theorem count_insertMember_le (read : toNames (.set items) = .ok names) (name : String) :
    count (.set (Value.insertMember items (.text name))) ≤ names.size + 1 := by
  have shown := exists_toNames_set.1 ⟨names, read⟩
  have shown' : ∀ item ∈ Value.insertMember items (.text name), ∃ text, item.shown = .ok text := by
    intro item mem
    rcases Value.mem_insertMember mem with old | rfl
    · exact shown item old
    · exact ⟨name, rfl⟩
  obtain ⟨all, read'⟩ := exists_toNames_set.2 shown'
  rw [count_of_names read']
  refine NameSet.size_le_of_subset (name :: names.names) fun other mem => ?_
  obtain ⟨item, inside, text⟩ := (mem_toNames rfl read').1 mem
  rcases Value.mem_insertMember inside with old | rfl
  · exact List.mem_cons_of_mem _ ((mem_toNames rfl read).2 ⟨item, old, text⟩)
  · cases text
    exact List.mem_cons_self

theorem count_texts {texts : List String} (distinct : texts.Nodup) :
    count (.set (texts.map .text)) = texts.length := by
  rw [count_of_names (toNames_texts texts), NameSet.size_ofList distinct]

end Raw

/-! ## Cells of actors -/

namespace Cell

/-- How many actors are in a cell, or where there is none. -/
def actorCount (cell? : Option Cell) : Nat := Raw.count (found .actor cell?)

/-- The actors can be counted, and are as many as the limit allows, or more. -/
def IsFull (limit : Int) (cell? : Option Cell) : Prop :=
  (∃ names, Raw.toNames (found .actor cell?) = .ok names) ∧ limit ≤ actorCount cell?

/-- The members of the set in a cell are some texts, each once; where there is no cell there are
none. -/
def Holds (cell? : Option Cell) (texts : List String) : Prop :=
  texts.Nodup ∧ (cell? = some (.plain (.set (texts.map .text))) ∨ cell? = none ∧ texts = [])

/-- What a cell has become, if it has more actors now, does not have more than the limit, and a set
of texts still is one. -/
structure Capped (limit : Int) (before now : Option Cell) : Prop where
  count : (actorCount now : Int) ≤ max limit (actorCount before)
  texts : (∃ texts, Holds before texts) → ∃ texts, Holds now texts

variable {limit : Int} {before : Option Cell} {old : List Value}

theorem found_set (items : List Value) :
    found .actor (some (.plain (.set items))) = .set items :=
  read_plain (show Gate.actor.dataType ≠ .document by decide) _

theorem actorCount_of_holds {cell? : Option Cell} {texts : List String} (h : Holds cell? texts) :
    actorCount cell? = texts.length := by
  obtain ⟨distinct, rfl | ⟨rfl, rfl⟩⟩ := h
  · rw [actorCount, found_set, Raw.count_texts distinct]
  · rfl

/-- A set of texts can be counted. -/
theorem isFull_iff_of_holds {limit : Int} {cell? : Option Cell} {texts : List String}
    (h : Holds cell? texts) : IsFull limit cell? ↔ limit ≤ texts.length := by
  have readable : ∃ names, Raw.toNames (found .actor cell?) = .ok names := by
    obtain ⟨-, rfl | ⟨rfl, -⟩⟩ := h
    · exact ⟨_, by rw [found_set, Raw.toNames_texts]⟩
    · exact ⟨_, rfl⟩
  rw [IsFull, actorCount_of_holds h]
  exact and_iff_right readable

theorem holds_none : Holds none [] := ⟨.nil, .inr ⟨rfl, rfl⟩⟩

namespace Capped

theorem self (limit : Int) (cell? : Option Cell) : Capped limit cell? cell? :=
  ⟨Int.le_max_right .., id⟩

theorem none (limit : Int) (before : Option Cell) : Capped limit before .none where
  count := Int.le_trans (Int.natCast_nonneg _) (Int.le_max_right ..)
  texts _ := ⟨[], holds_none⟩

theorem opened (limit : Int) (before : Option Cell) :
    Capped limit before (some (.plain (.set []))) where
  count := Int.le_trans (Int.natCast_nonneg _) (Int.le_max_right ..)
  texts _ := ⟨[], .nil, .inl rfl⟩

/-- Members may be taken out. -/
theorem erased (h : Capped limit before (some (.plain (.set old)))) (name : String) :
    Capped limit before
      (some (.plain (.set (old.filter fun m => !m.equals (.text name))))) where
  count := by
    have fewer := Raw.count_filter_le (fun m => !m.equals (.text name)) old
    have within := h.count
    rw [actorCount, found_set] at within ⊢
    omega
  texts started := by
    obtain ⟨texts, distinct, there | ⟨missing, -⟩⟩ := h.texts started
    · cases there
      exact ⟨texts.filter (· ≠ name), distinct.filter _, .inl (by rw [Value.filter_texts])⟩
    · cases missing

/-- A member may be put in while there are fewer than the limit. -/
theorem inserted (h : Capped limit before (some (.plain (.set old)))) {names : NameSet}
    (read : Raw.toNames (.set old) = .ok names) (room : names.size < limit) (name : String) :
    Capped limit before (some (.plain (.set (Value.insertMember old (.text name))))) where
  count := by
    have more := Raw.count_insertMember_le read name
    rw [actorCount, found_set]
    omega
  texts started := by
    obtain ⟨texts, distinct, there | ⟨missing, -⟩⟩ := h.texts started
    · cases there
      rw [Value.insertMember_texts]
      by_cases known : name ∈ texts
      · exact ⟨texts, distinct, .inl (by rw [if_pos known])⟩
      · refine ⟨texts ++ [name], ?_, .inl (by rw [if_neg known])⟩
        exact List.nodup_append.2 ⟨distinct, List.pairwise_singleton _ _, fun a inside b own same =>
          known (List.mem_singleton.1 own ▸ same ▸ inside)⟩
    · cases missing

end Capped

end Cell

/-! ## Records -/

namespace Records

/-- The cell of a feature's actors, if it has one. -/
def actors (records : Records) (feature : String) : Option Cell :=
  records.cell? feature Gate.actor.key

/-- Every cell of actors is within the limit, as far as it was at the start. -/
def Capped (limit : Int) (start records : Records) : Prop :=
  ∀ feature, Cell.Capped limit (start.actors feature) (records.actors feature)

theorem toNames_actors (records : Records) (feature : String) :
    Raw.toNames (Entries.get (records.readFeature feature) Gate.actor.key) =
      Raw.toNames (Cell.found .actor (records.actors feature)) := by
  rw [get_readFeature]
  rfl

namespace Capped

variable {limit : Int} {start records after : Records} {feature : String}

theorem self (limit : Int) (records : Records) : Capped limit records records :=
  fun _ => .self ..

/-- Cells of actors may go. -/
theorem mono (h : Capped limit start records)
    (cells : ∀ other, after.actors other = none ∨ after.actors other = records.actors other) :
    Capped limit start after := by
  intro other
  rcases cells other with gone | same
  · rw [gone]
    exact .none ..
  · rw [same]
    exact h other

theorem ensure (h : Capped limit start records) (feature : String) :
    Capped limit start (records.ensure feature) :=
  h.mono fun _ => .inr (cell?_ensure ..)

theorem putActors (h : Capped limit start records) {cell : Cell}
    (within : Cell.Capped limit (start.actors feature) (some cell)) :
    Capped limit start (records.putCell feature Gate.actor.key cell) := by
  intro other
  rw [actors, actors, cell?_putCell]
  split
  · rename_i own
    rw [own.1]
    exact within
  · exact h other

end Capped

end Records

/-! ## Filing -/

namespace Filing

open Records

variable {limit : Int} {start : Records} {feature : String}

/-- Filing under the keys of other gates keeps cells of actors within the limit. -/
theorem closed_capped (limit : Int) (start : Records) (feature : String) :
    Closed (Capped limit start) feature (· ≠ Gate.actor.key) where
  ensure _ h := h.ensure feature
  clear records h := h.mono fun other => by
    rw [actors, cell?_clear]
    split
    · exact .inl rfl
    · exact .inr rfl
  putCell records key cell hk h := h.mono fun other => .inr (by
    rw [actors, cell?_putCell, if_neg fun own => hk own.2.symm]
    rfl)
  eraseCell records key hk h := h.mono fun other => .inr (by
    rw [actors, cell?_eraseCell, if_neg fun own => hk own.2.symm]
    rfl)

theorem keeps_capped_eraseMember (thing : Value) :
    Keeps (Capped limit start) (eraseMember feature Gate.actor.key thing) := by
  intro records h
  rw [eraseMember_apply]
  cases there : records.cell? feature Gate.actor.key with
  | none =>
    dsimp only
    cases heldText thing <;> exact h
  | some cell =>
    dsimp only
    cases known : members cell "discard" with
    | error failure => exact h
    | ok old =>
      cases heldText thing with
      | error failure => exact h
      | ok text => exact h.putActors (.erased (eq_of_members known ▸ there ▸ h feature) text)

theorem capped_insertMember {records : Records} (h : Capped limit start records)
    {names : NameSet} (read : Raw.toNames (Cell.found .actor (records.actors feature)) = .ok names)
    (room : names.size < limit) (thing : Value) :
    Leaves (Capped limit start) (insertMember feature Gate.actor.key thing records) := by
  rw [insertMember_apply]
  cases there : records.cell? feature Gate.actor.key with
  | none =>
    have opened := h.putActors (.opened limit (start.actors feature))
    dsimp only
    rw [actors, there] at read
    cases heldText thing with
    | error failure => exact opened
    | ok text =>
      cases read
      exact opened.putActors (Cell.Capped.inserted (.opened ..) rfl room text)
  | some cell =>
    dsimp only
    cases known : members cell "add" with
    | error failure => exact h
    | ok old =>
      obtain rfl := eq_of_members known
      have own : Cell.Capped limit (start.actors feature) (some (.plain (.set old))) :=
        there ▸ h feature
      rw [actors, there, Cell.found_set] at read
      cases heldText thing with
      | error failure => exact h
      | ok text => exact h.putActors (own.inserted read room text)

/-- A write that adds no actor keeps cells of actors within the limit. -/
theorem keeps_capped_write (feature : String) {w : Write} (adds : Adapter.addsActor w = false) :
    Keeps (Capped limit start) (write feature w) := by
  have closed := closed_capped limit start feature
  -- under the key of actors are the gate itself, and a slot that is refused
  by_cases own : ∃ slot ∈ w.slot?, slot.key = Gate.actor.key
  · obtain ⟨slot, mem, own⟩ := own
    have ensured : Keeps (Capped limit start) (modify (·.ensure feature) : Filing Unit) :=
      .modify closed.ensure
    cases w with
    | add => cases mem
    | remove => cases mem
    | clear => cases mem
    | enable slot thing =>
      cases mem
      cases slot with
      | foreign name => exact ensured.bind fun _ => .throw _
      | gate gate =>
        obtain rfl := Gate.key_injective own
        cases adds
    | disable slot thing =>
      cases mem
      cases slot with
      | foreign name =>
        exact (ensured.bind fun _ => .throw _).bind fun again => .ite (keeps_clear closed) (.pure _)
      | gate gate =>
        obtain rfl := Gate.key_injective own
        refine (ensured.bind fun _ => ?_).bind fun again => .ite (keeps_clear closed) (.pure _)
        exact (keeps_capped_eraseMember thing).bind fun _ => .pure _
  · refine keeps_write closed w (fun slot mem same => own ⟨slot, mem, same⟩) fun _ records h => ?_
    exact h.mono fun other => by
      rw [actors, Records.cell?_remove]
      split
      · exact .inl rfl
      · exact .inr rfl

/-- A write to a feature that has room for another actor keeps cells of actors within the limit. -/
theorem capped_of_room {records : Records} (h : Capped limit start records) {names : NameSet}
    (read : Raw.toNames (Cell.found .actor (records.actors feature)) = .ok names)
    (room : names.size < limit) (thing : Value) :
    Leaves (Capped limit start) (write feature (.enable (.gate .actor) thing) records) := by
  have same : (records.ensure feature).actors feature = records.actors feature :=
    Records.cell?_ensure ..
  have left := capped_insertMember (h.ensure feature) (same ▸ read) room thing
  have filed : write feature (.enable (.gate .actor) thing) records =
      (insertMember feature Gate.actor.key thing >>= fun _ => pure true)
        (records.ensure feature) := rfl
  rw [filed, bind_apply]
  cases ran : insertMember feature Gate.actor.key thing (records.ensure feature) with
  | ok _ after => rwa [ran] at left
  | error failure after => rwa [ran] at left

end Filing

/-! ## The machine -/

theorem Adapter.exists_of_addsActor {w : Write} (adds : addsActor w = true) :
    ∃ thing, w = .enable (.gate .actor) thing := by
  unfold addsActor at adds
  split at adds
  · exact ⟨_, rfl⟩
  · cases adds

theorem Machine.file_apply (filing : Filing α) (s : ReferenceState) :
    file filing s = match filing s.records with
      | .ok a records => .ok a { s with records }
      | .error failure records => .error failure { s with records } := rfl

/-- The rules of a limit on actors. -/
def Rules.limited (limit : Int) : Rules := ⟨false, some limit, false⟩

namespace Rules

open Records

variable {limit : Int} {start : Records}

theorem sound_limited (positive : 1 ≤ limit) : (limited limit).Sound := by
  rintro _ ⟨⟩
  exact positive

/-- A write keeps cells of actors within the limit, whether it is made, fails or is refused. -/
theorem keeps_capped_write (feature : String) (w : Write) :
    Keeps (fun s : ReferenceState => Capped limit start s.records)
      ((limited limit).write feature w) := by
  refine .of_leaves fun s h => ?_
  have filed (left : Leaves (Capped limit start) (Filing.write feature w s.records)) :
      Leaves (fun t : ReferenceState => Capped limit start t.records)
        (Machine.file (Filing.write feature w) s) := by
    rw [Machine.file_apply]
    cases ran : Filing.write feature w s.records <;> rwa [ran] at left
  rw [write, guardWrite_of_limited rfl rfl]
  cases adds : Adapter.addsActor w with
  | false => exact filed ((Filing.keeps_capped_write feature adds).leaves h)
  | true =>
    obtain ⟨thing, rfl⟩ := Adapter.exists_of_addsActor adds
    rw [if_pos rfl, bind_apply, guardActors_apply, toNames_actors]
    cases read : Raw.toNames (Cell.found .actor (s.records.actors feature)) with
    | error failure => exact h
    | ok names =>
      dsimp only
      by_cases full : limit ≤ names.size
      · rw [if_pos full]
        exact h
      · rw [if_neg full]
        dsimp only
        exact filed (Filing.capped_of_room h read (Int.not_le.1 full) thing)

/-- So does meeting a demand. -/
theorem keeps_capped_carryOut (positive : 1 ≤ limit) (feature : String) (demand : Demand) :
    Keeps (fun s : ReferenceState => Capped limit start s.records)
      ((limited limit).carryOut feature demand) := by
  cases demand with
  | add => exact keeps_capped_write feature .add
  | remove => exact keeps_capped_write feature .remove
  | clear => exact keeps_capped_write feature .clear
  | change c gate thing =>
    rw [carryOut_change (sound_limited positive)]
    exact (keeps_capped_write feature .add).bind fun _ => keeps_capped_write feature _

end Rules

/-! ## Refusals -/

/-- A run by which a feature is to get another actor is refused over the limit just if the feature
is full, and then the records are as they were. -/
structure CapsActors {σ : Type} (records : σ → Records) (limit : Int) (feature : String)
    (run : EStateM Failure σ α) (s : σ) : Prop where
  refused_iff : (∃ failure t, run s = .error failure t ∧ failure.category = .actorLimit) ↔
    Cell.IsFull limit ((records s).actors feature)
  refused (failure : Failure) (t : σ) : run s = .error failure t →
    failure.category = .actorLimit →
      failure = .actorLimitExceeded feature limit ∧ records t = records s

/-! ### Other failures -/

/-- Whatever the run fails over, it is no limit on actors. -/
def NeverOverLimit {σ : Type} (run : EStateM Failure σ α) : Prop :=
  ∀ s failure t, run s = .error failure t → failure.category ≠ .actorLimit

namespace NeverOverLimit

variable {σ : Type} {run : EStateM Failure σ α}

theorem pure (a : α) : NeverOverLimit (Pure.pure a : EStateM Failure σ α) := nofun

theorem modify (f : σ → σ) :
    NeverOverLimit (MonadState.modifyGet fun s => ((), f s) : EStateM Failure σ Unit) := nofun

theorem bind {next : α → EStateM Failure σ β} (first : NeverOverLimit run)
    (second : ∀ a, NeverOverLimit (next a)) : NeverOverLimit (run >>= next) := by
  intro s failure t failed
  rw [bind_apply] at failed
  cases ran : run s with
  | ok a mid =>
    rw [ran] at failed
    exact second a mid failure t failed
  | error other mid =>
    rw [ran] at failed
    cases failed
    exact first s failure t ran

theorem get_bind {next : σ → EStateM Failure σ α} (h : ∀ s, NeverOverLimit (next s)) :
    NeverOverLimit (get >>= next) := fun s => h s s

theorem ofExcept {result : Except Failure α}
    (h : ∀ failure, result = .error failure → failure.category ≠ .actorLimit) :
    NeverOverLimit (Filing.ofExcept result) := by
  intro records failure after failed
  rw [Filing.ofExcept_apply] at failed
  cases result with
  | ok a => cases failed
  | error other =>
    cases failed
    exact h failure rfl

theorem file {filing : Filing α} (h : NeverOverLimit filing) :
    NeverOverLimit (Machine.file filing) := by
  intro s failure t failed
  rw [Machine.file_apply] at failed
  cases filed : filing s.records with
  | ok a after =>
    rw [filed] at failed
    cases failed
  | error other after =>
    rw [filed] at failed
    cases failed
    exact h s.records failure after filed

end NeverOverLimit

theorem Failure.category_of_isOversize {failure : Failure} (h : failure.isOversize = true) :
    failure.category ≠ .actorLimit := by
  cases failure with
  | intTooLarge => nofun
  | numberTooLong => nofun
  | _ => cases h

theorem Bounded.category {M : Prop} {P : α → Prop} {result : Except Failure α} {failure : Failure}
    (h : Bounded M P result) (failed : result = .error failure) :
    failure.category ≠ .actorLimit := by
  rw [failed] at h
  exact Failure.category_of_isOversize h.1

theorem Raw.bounded_toNames (value : Value) : Bounded False Any (toNames value) := by
  have texts (items : List Value) : Bounded False Any (items.mapM Value.shown) := by
    induction items with
    | nil => exact trivial
    | cons item rest ih =>
      rw [List.mapM_cons]
      exact (Value.bounded_shown item False.elim).bind fun _ _ => ih.bind fun _ _ => trivial
  unfold toNames
  split
  · exact (texts _).bind fun _ _ => trivial
  · exact trivial

namespace Filing

theorem category_of_heldText {thing : Value} {failure : Failure}
    (h : heldText thing = .error failure) : failure.category ≠ .actorLimit := by
  unfold heldText at h
  cases held : thing.heldValue with
  | ok value =>
    rw [held] at h
    exact (Value.bounded_shown value False.elim).category h
  | error other =>
    rw [held] at h
    cases h
    unfold Value.heldValue at held
    split at held
    · cases held
    · split at held <;> cases held
      nofun
    · cases held
      nofun

theorem category_of_members {cell : Cell} {wanted : String} {failure : Failure}
    (h : members cell wanted = .error failure) : failure.category ≠ .actorLimit := by
  unfold members at h
  split at h <;> cases h <;> nofun

/-- A member fails to be put in for want of a set or of a text. -/
theorem neverOverLimit_insertMember (feature key : String) (thing : Value) :
    NeverOverLimit (insertMember feature key thing) := by
  have opened : NeverOverLimit (openSet feature key) := by
    refine .get_bind fun records => ?_
    split
    · exact .ofExcept fun _ => category_of_members
    · exact (NeverOverLimit.modify _).bind fun _ => .pure _
  exact opened.bind fun _ => (NeverOverLimit.ofExcept fun _ => category_of_heldText).bind
    fun _ => .modify _

theorem neverOverLimit_enableActor (feature : String) (thing : Value) :
    NeverOverLimit (write feature (.enable (.gate .actor) thing)) :=
  (NeverOverLimit.modify _).bind fun _ =>
    (neverOverLimit_insertMember feature Gate.actor.key thing).bind fun _ => .pure _

theorem neverOverLimit_add (feature : String) : NeverOverLimit (add feature) := by
  intro records failure after failed
  rw [add_apply] at failed
  cases failed

end Filing

/-! ### Refusing a full feature -/

namespace CapsActors

variable {σ τ : Type} {records : σ → Records} {limit : Int} {feature : String}
  {run : EStateM Failure σ α} {s : σ}

theorem of_full (full : Cell.IsFull limit ((records s).actors feature)) {t : σ}
    (ran : run s = .error (.actorLimitExceeded feature limit) t) (same : records t = records s) :
    CapsActors records limit feature run s where
  refused_iff := iff_of_true ⟨_, t, ran, rfl⟩ full
  refused failure t' ran' _ := by
    cases ran.symm.trans ran'
    exact ⟨rfl, same⟩

theorem of_others (room : ¬Cell.IsFull limit ((records s).actors feature))
    (others : ∀ failure t, run s = .error failure t → failure.category ≠ .actorLimit) :
    CapsActors records limit feature run s where
  refused_iff := iff_of_false (fun ⟨failure, t, ran, kind⟩ => others failure t ran kind) room
  refused failure t ran kind := absurd kind (others failure t ran)

/-- A run that ends like one that caps actors caps them too. -/
theorem of_ends {spec : EStateM Failure τ β} {records' : τ → Records} {t : τ}
    {Q : α → β → σ → τ → Prop} {E : σ → τ → Prop} (h : CapsActors records' limit feature spec t)
    (same : records s = records' t) (ends : Ends Q E (run s) (spec t))
    (hE : ∀ s t, E s t → records s = records' t) :
    CapsActors records limit feature run s := by
  rcases ends.elim with ⟨a, s', b, t', ran, ran', -⟩ | ⟨failure, s', t', ran, ran', left⟩
  · refine of_others (fun full => ?_) fun failure s' failed => nomatch ran.symm.trans failed
    obtain ⟨failure, t', failed, -⟩ := h.refused_iff.2 (same ▸ full)
    cases ran'.symm.trans failed
  · by_cases kind : failure.category = .actorLimit
    · obtain ⟨rfl, kept⟩ := h.refused failure t' ran' kind
      refine of_full ?_ ran ((hE s' t' left).trans (kept.trans same.symm))
      exact same ▸ h.refused_iff.1 ⟨_, t', ran', kind⟩
    · refine of_others (fun full => ?_) fun failure' s'' failed => ?_
      · obtain ⟨failure', t'', failed, kind'⟩ := h.refused_iff.2 (same ▸ full)
        cases ran'.symm.trans failed
        exact kind kind'
      · cases ran.symm.trans failed
        exact kind

end CapsActors

/-- What is guarded against another actor, and otherwise fails for other reasons, caps actors. -/
theorem Rules.capsActors_guarded (limit : Int) (feature : String) (thing : Value)
    {rest : Machine α} (others : NeverOverLimit rest) (s : ReferenceState) :
    CapsActors ReferenceState.records limit feature
      ((limited limit).guardWrite feature (.enable (.gate .actor) thing) >>= fun _ => rest) s := by
  have guarded := guardActors_apply limit feature s
  rw [Records.toNames_actors] at guarded
  rw [(guardWrite_of_limited rfl rfl feature (.enable (.gate .actor) thing)).trans (if_pos rfl)]
  cases read : Raw.toNames (Cell.found .actor (s.records.actors feature)) with
  | error failure =>
    rw [read] at guarded
    refine .of_others (fun full => ?_) fun failure' t failed => ?_
    · obtain ⟨names, read'⟩ := full.1
      cases read.symm.trans read'
    · rw [bind_apply, guarded] at failed
      cases failed
      exact (Raw.bounded_toNames _).category read
  | ok names =>
    have size : Cell.actorCount (s.records.actors feature) = names.size :=
      Raw.count_of_names read
    rw [read] at guarded
    dsimp only at guarded
    by_cases full : limit ≤ names.size
    · rw [if_pos full] at guarded
      refine .of_full ⟨⟨names, read⟩, size ▸ full⟩ ?_ rfl
      rw [bind_apply, guarded]
    · rw [if_neg full] at guarded
      refine .of_others (fun same => full (size ▸ same.2)) fun failure t failed => ?_
      rw [bind_apply, guarded] at failed
      exact others s failure t failed

/-! ## Use -/

/-- One use of a flag set: a read or a write of its adapter, or an action on a feature. -/
inductive Use : Type 1 where
  | read {α : Type} (r : Read α)
  | write (feature : String) (w : Write)
  | act (feature : String) (action : Action)

def Use.run (flags : FlagSet) : Use → Run Unit
  | .read r => do let _ ← flags.adapter.read r
  | .write feature w => do let _ ← flags.adapter.write feature w
  | .act feature action => do let _ ← action.run flags feature

/-- Where uses lead, one after another, whether they succeed or fail. -/
def FlagSet.afterUses (flags : FlagSet) : List Use → World → World
  | [], world => world
  | use :: rest, world =>
    match use.run flags world with
    | .ok _ world => afterUses flags rest world
    | .error _ world => afterUses flags rest world

/-- A store that does not fail, with cells of actors within the limit. -/
structure World.Capped (store : String) (limit : Int) (start : Records) (world : World) :
    Prop where
  available : ∀ count operation, (world.store store).outage count operation = none
  capped : Records.Capped limit start (world.store store).records

namespace World.Capped

variable {store : String} {limit : Int} {start : Records}

theorem lasting : Lasting (World.Capped store limit start) :=
  ⟨fun _ h => ⟨h.available, h.capped⟩, fun _ h => ⟨h.available, h.capped⟩⟩

/-- What ends like the machine keeps cells of actors within the limit if the machine does. -/
theorem keeps {A : α → β → Prop} {run : Run α} {spec : Machine β}
    (h : ∀ frame, Matches (World.Holds store frame) A run spec)
    (hs : Keeps (fun s => Records.Capped limit start s.records) spec) :
    Keeps (World.Capped store limit start) run := by
  refine .of_leaves fun w hw => ?_
  have holds := World.holds_self hw.available
  rcases (h _ w _ holds).elim with
    ⟨a, w', b, t, ran, ran', -, held⟩ | ⟨failure, w', t, ran, ran', held⟩
  · have kept : Records.Capped limit start t.records := hs.of_ok hw.capped ran'
    rw [ran]
    exact ⟨held.available, held.records ▸ kept⟩
  · have kept : Records.Capped limit start t.records := hs.of_error hw.capped ran'
    rw [ran]
    exact ⟨held.available, held.records ▸ kept⟩

end World.Capped

namespace FlagSet

section Limited

variable {flags : FlagSet} {limit : Int} {store : String} {start : Records}
  (serves : ∀ frame, ServesExactly flags.adapter (.limited limit) (World.Holds store frame))

include serves

theorem keeps_capped_read (r : Read α) :
    Keeps (World.Capped store limit start) (flags.adapter.read r) := by
  refine World.Capped.keeps (fun frame => (serves frame).read r) (.of_leaves fun s h => ?_)
  rcases (Rules.limited limit).read_keeps r s with given | ⟨failure, refused⟩
  · rw [given]
    exact h
  · rw [refused]
    exact h

theorem keeps_capped_action (positive : 1 ≤ limit) (feature : String) (action : Action) :
    Keeps (World.Capped store limit start) (action.run flags feature) := by
  cases demanded : action.demand? flags.registry with
  | none => exact keeps_ask World.Capped.lasting (keeps_capped_read serves) demanded
  | some demand =>
    refine World.Capped.keeps (fun frame => demand_matches (serves frame).serves
      (Rules.sound_limited positive) feature demanded) ?_
    refine .bind ?_ fun d => (Rules.keeps_capped_carryOut positive feature d).bind fun _ => .pure _
    cases demand with
    | ok d => exact .pure d
    | error failure => exact .throw failure

/-- Whatever use is made of flags, it keeps cells of actors within the limit. -/
theorem keeps_capped_use (positive : 1 ≤ limit) (use : Use) :
    Keeps (World.Capped store limit start) (use.run flags) := by
  cases use with
  | read r => exact (keeps_capped_read serves r).bind fun _ => .pure _
  | write feature w =>
    refine Keeps.bind ?_ fun _ => .pure _
    exact World.Capped.keeps (fun frame => (serves frame).write feature w)
      (Rules.keeps_capped_write feature w)
  | act feature action =>
    exact (keeps_capped_action serves positive feature action).bind fun _ => .pure _

/-- So does any number of uses, by induction over them. -/
theorem capped_afterUses (positive : 1 ≤ limit) (uses : List Use) {world : World}
    (h : world.Capped store limit start) :
    (flags.afterUses uses world).Capped store limit start := by
  induction uses generalizing world with
  | nil => exact h
  | cons use rest ih =>
    have kept : Keeps (World.Capped store limit start) (use.run flags) :=
      keeps_capped_use serves positive use
    unfold afterUses
    cases ran : use.run flags world with
    | ok _ after => exact ih (kept.of_ok h ran)
    | error failure after => exact ih (kept.of_error h ran)

variable {world : World}
  (available : ∀ count operation, (world.store store).outage count operation = none)

include available

/-- Another actor is refused to a full feature alone. -/
theorem capsActors_write (feature : String) (thing : Value) :
    CapsActors (fun w => (w.store store).records) limit feature
      (flags.adapter.write feature (.enable (.gate .actor) thing)) world := by
  have holds := World.holds_self available
  have others := (Filing.neverOverLimit_enableActor feature thing).file
  exact (Rules.capsActors_guarded limit feature thing others _).of_ends rfl
    ((serves _).write feature (.enable (.gate .actor) thing) world _ holds)
    fun _ _ held => held.records

/-- So it is if a flag demands it, which adds the feature first. -/
theorem capsActors_run (positive : 1 ≤ limit) (feature : String) {action : Action} {thing : Value}
    (demanded : action.demand? flags.registry = some (.ok (.change .enable .actor thing))) :
    CapsActors (fun w => (w.store store).records) limit feature (action.run flags feature)
      world := by
  have holds := World.holds_self available
  have ends := demand_matches (serves _).serves (Rules.sound_limited positive) feature demanded
    world _ holds
  simp only [Machine.ofExcept, pure_bind, Rules.carryOut, bind_assoc] at ends
  have others : NeverOverLimit (Filing.change feature .enable .actor thing) :=
    (Filing.neverOverLimit_add feature).bind fun _ =>
      Filing.neverOverLimit_enableActor feature thing
  exact (Rules.capsActors_guarded limit feature thing (others.file.bind fun _ => .pure _) _).of_ends
    rfl ends fun _ _ held => held.records

end Limited

/-- However a store in memory with a limit on actors around it is used, directly and by flags, no
feature comes to have more actors than the limit, unless it had them; sets of texts stay sets of
texts, so that their members are counted; and another actor is refused over the limit just to
features that are full, which leaves the records as they were, also after flags have added the
feature. -/
theorem actor_limit_holds (limit : Int) (positive : 1 ≤ limit) (store name : String)
    (instrumenter : Instrumenter) (registry : Registry) (meaning : Meaning) (world : World)
    (available : ∀ count operation, (world.store store).outage count operation = none)
    (uses : List Use) :
    let flags : FlagSet := ⟨.actorLimit limit (.memory store name), instrumenter, registry, meaning⟩
    let now := flags.afterUses uses world
    let actors (w : World) (feature : String) := (w.store store).records.actors feature
    (∀ feature, (Cell.actorCount (actors now feature) : Int) ≤
        max limit (Cell.actorCount (actors world feature))) ∧
      (∀ feature, (∃ texts, Cell.Holds (actors world feature) texts) →
        ∃ texts, Cell.Holds (actors now feature) texts ∧
          Cell.actorCount (actors now feature) = texts.length ∧
          (Cell.IsFull limit (actors now feature) ↔ limit ≤ texts.length)) ∧
      ∀ feature thing,
        CapsActors (fun w => (w.store store).records) limit feature
          (flags.adapter.write feature (.enable (.gate .actor) thing)) now ∧
        ∀ action : Action,
          action.demand? registry = some (.ok (.change .enable .actor thing)) →
            CapsActors (fun w => (w.store store).records) limit feature
              (action.run flags feature) now := by
  intro flags now actors
  have serves (frame : Frame) : ServesExactly flags.adapter (.limited limit)
      (World.Holds store frame) := (serves_memory name).actorLimit limit
  have after : now.Capped store limit (world.store store).records :=
    capped_afterUses serves positive uses ⟨available, .self _ _⟩
  refine ⟨fun feature => (after.capped feature).count, fun feature started => ?_,
    fun feature thing => ⟨capsActors_write serves after.available feature thing, ?_⟩⟩
  · obtain ⟨texts, holds⟩ := (after.capped feature).texts started
    exact ⟨texts, holds, Cell.actorCount_of_holds holds, Cell.isFull_iff_of_holds holds⟩
  · exact fun action demanded => capsActors_run serves after.available positive feature demanded

/-- Flags that have room for one actor each. -/
def solitary : FlagSet :=
  ⟨.actorLimit 1 (.memory "store" "memory"), .none, .standard, fun _ _ => pure (.fresh .null)⟩

/-- A flag enables one actor, and then another one is written directly. -/
def crowding : World :=
  solitary.afterUses
    [.act "search" (.changeActor .enable (.actor (.text "User;1") (.record []))),
      .write "search" (.enable (.gate .actor)
        (.wrapped (.actor (.actor (.text "User;2") (.record [])) "User;2")))]
    (.fresh ⟨fun _ => .int 0, 0, .int 0, [], []⟩)

theorem actors_crowding :
    (crowding.store "store").records.actors "search" = some (.plain (.set [.text "User;1"])) :=
  rfl

/-- The second actor is not there, and is refused to the flag as well. -/
theorem actor_limit_holds_crowding :
    Cell.Holds ((crowding.store "store").records.actors "search") ["User;1"] ∧
      ∃ w', (Action.changeActor .enable (.actor (.text "User;2") (.record []))).run solitary
          "search" crowding = .error (.actorLimitExceeded "search" 1) w' ∧
        (w'.store "store").records = (crowding.store "store").records := by
  have holds : Cell.Holds ((crowding.store "store").records.actors "search") ["User;1"] :=
    ⟨List.pairwise_singleton _ _, .inl actors_crowding⟩
  have caps := (actor_limit_holds 1 (by decide) "store" "memory" .none .standard
    (fun _ _ => pure (.fresh .null)) (.fresh ⟨fun _ => .int 0, 0, .int 0, [], []⟩)
    (fun _ _ => rfl)
    [.act "search" (.changeActor .enable (.actor (.text "User;1") (.record []))),
      .write "search" (.enable (.gate .actor)
        (.wrapped (.actor (.actor (.text "User;2") (.record [])) "User;2")))]).2.2
  have capped := (caps "search"
    (.wrapped (.actor (.actor (.text "User;2") (.record [])) "User;2"))).2
    (.changeActor .enable (.actor (.text "User;2") (.record []))) rfl
  have full : Cell.IsFull 1 ((crowding.store "store").records.actors "search") :=
    (Cell.isFull_iff_of_holds holds).2 (by decide)
  obtain ⟨failure, w', refused, kind⟩ := capped.refused_iff.2 full
  obtain ⟨rfl, same⟩ := capped.refused failure w' refused kind
  exact ⟨holds, w', refused, same⟩

end FlagSet

end FeatureGates
