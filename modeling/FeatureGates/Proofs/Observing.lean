import FeatureGates.Proofs.Serving

/-!
# Observing changes nothing

An instrumenter reports an operation when it is over. Reporting to the log
fails if a field of the payload has the name of one of the reporter's own;
no payload of an adapter or a flag set has one (`Payload.Tame`). So an
observed operation ends like the operation itself, in a world that differs
by reports (`World.Reported`, `Instrumenter.observe_refines`), and an
instrumented adapter serves like the adapter in it (`Serves.instrumented`).
-/

namespace FeatureGates

variable {α β τ : Type}

/-! ## Payloads -/

/-- A field that no reporter adds itself. -/
def TameField (name : String) : Prop := name ≠ "elapsed_ms" ∧ name ≠ "error"

instance (name : String) : Decidable (TameField name) := inferInstanceAs (Decidable (_ ∧ _))

/-- A payload without fields that a reporter adds itself. -/
def Payload.Tame (payload : Payload) : Prop := ∀ row ∈ payload.rows, TameField row.1

theorem Table.mem_putRows {name : String} {value : α} {rows : List (String × α)}
    {row : String × α} (h : row ∈ putRows name value rows) : row.1 = name ∨ row ∈ rows := by
  induction rows with
  | nil =>
    rw [putRows, List.mem_singleton] at h
    exact .inl (congrArg Prod.fst h)
  | cons first rest ih =>
    obtain ⟨n, v⟩ := first
    unfold putRows at h
    split at h
    · rename_i same
      rcases List.mem_cons.1 h with rfl | h
      · exact .inl same.symm
      · exact .inr (List.mem_cons_of_mem _ h)
    · rcases List.mem_cons.1 h with rfl | h
      · exact .inr List.mem_cons_self
      · exact (ih h).imp_right (List.mem_cons_of_mem _)

namespace Payload.Tame

theorem put {payload : Payload} (h : payload.Tame) {name : String} (hn : TameField name)
    (value : Value) : Payload.Tame (payload.put name value) := by
  intro row mem
  rcases Table.mem_putRows mem with same | mem
  · exact same ▸ hn
  · exact h row mem

theorem ofRows {rows : List (String × Value)} (h : ∀ row ∈ rows, TameField row.1) :
    Payload.Tame (.ofRows rows) := by
  have all (rows : List (String × Value)) (start : Payload) (hs : start.Tame)
      (h : ∀ row ∈ rows, TameField row.1) :
      Payload.Tame (rows.foldl (fun t row => t.put row.1 row.2) start) := by
    induction rows generalizing start with
    | nil => exact hs
    | cons row rest ih =>
      refine ih _ (hs.put (h row List.mem_cons_self) row.2) ?_
      intro r mem
      exact h r (List.mem_cons_of_mem row mem)
  exact all rows _ (fun _ mem => absurd mem List.not_mem_nil) h

theorem not_contains {payload : Payload} (h : payload.Tame) {name : String}
    (hn : ¬TameField name) : payload.contains name = false := by
  rw [← Bool.not_eq_true, ← Table.mem_names]
  intro mem
  obtain ⟨row, inside, rfl⟩ := List.mem_map.1 (NameSet.mem_ofList.1 mem)
  exact hn (h row inside)

theorem loggable {payload : Payload} (h : payload.Tame) :
    Payload.Tame (Instrumenter.loggable payload) := by
  refine ofRows ?_
  intro row mem
  obtain ⟨given, inside, rfl⟩ := List.mem_map.1 mem
  show TameField (if given.1 = "event" then "payload_event" else given.1)
  split
  · decide
  · exact h given inside

end Payload.Tame

/-! ## Reports -/

/-- Worlds that differ at most in what was logged and recorded. -/
structure World.Reported (v w : World) : Prop where
  flags : World.SameFlags v w
  sightings : w.surroundings.sightings = v.surroundings.sightings

theorem World.Reported.refl (w : World) : World.Reported w w :=
  ⟨⟨rfl, rfl, rfl, rfl, .refl _⟩, rfl⟩

theorem World.Reported.trans {u v w : World} (h : World.Reported u v) (h' : World.Reported v w) :
    World.Reported u w where
  flags := {
    stores := h.flags.stores.trans h'.flags.stores
    caches := h.flags.caches.trans h'.flags.caches
    groups := h.flags.groups.trans h'.flags.groups
    overlapping := h.flags.overlapping.trans h'.flags.overlapping
    surroundings := h.flags.surroundings.trans h'.flags.surroundings }
  sightings := h'.sightings.trans h.sightings

/-- A relation of worlds and states in which reports make no difference. -/
def Unreported (R : World → τ → Prop) : Prop := ∀ v w t, World.Reported v w → R v t → R w t

theorem Unseeing.unreported {R : World → ReferenceState → Prop} (h : Unseeing R) : Unreported R :=
  fun v w s reported => h v w s reported.flags

namespace Instrumenter

/-- Reports on tame payloads are made, and leave only their traces. -/
theorem report_ok (instrumenter : Instrumenter) (name : String) {payload : Payload}
    (h : payload.Tame) (failure : Option Failure) (result : Value) (w : World) :
    ∃ w', instrumenter.report name payload failure result w = .ok () w' ∧
      World.Reported w w' := by
  have elapsed : (loggable payload).contains "elapsed_ms" = false :=
    h.loggable.not_contains (by decide)
  have error : (loggable payload).contains "error" = false := h.loggable.not_contains (by decide)
  cases instrumenter with
  | none => exact ⟨_, rfl, .refl w⟩
  | memory => exact ⟨_, rfl, ⟨rfl, rfl, rfl, rfl, .refl _⟩, rfl⟩
  | logging =>
    cases failure with
    | none =>
      simp only [report, logEnd, elapsed]
      exact ⟨_, rfl, ⟨rfl, rfl, rfl, rfl, rfl, rfl, rfl⟩, rfl⟩
    | some failure =>
      simp only [report, logEnd, elapsed, error]
      exact ⟨_, rfl, ⟨rfl, rfl, rfl, rfl, rfl, rfl, rfl⟩, rfl⟩

end Instrumenter

/-! ## Observed operations -/

/-- A relation of worlds, for a world in which something is observed. -/
def Watched (P : World → τ → Prop) (watched : Payload × World) (t : τ) : Prop :=
  watched.1.Tame ∧ P watched.2 t

section Observed

variable {P R : World → τ → Prop} {A : α → β → Prop}

/-- An observed operation ends like the operation. -/
theorem Instrumenter.observe_refines (hR : Unreported R) (instrumenter : Instrumenter)
    (name : String) {payload : List (String × Value)} (hp : ∀ row ∈ payload, TameField row.1)
    (shown : α → Value) {body : Observed α} {spec : EStateM Failure τ β}
    (h : MatchesFrom (Watched P) (Watched R) A body spec) :
    MatchesFrom P R A (instrumenter.observe name payload shown body) spec := by
  intro w s hw
  have ends := h (.ofRows payload, w) s ⟨.ofRows hp, hw⟩
  unfold observe instrument
  dsimp only
  rcases ends.elim with ⟨value, ⟨after, w'⟩, value', s', ran, spec_ran, answers, tame, states⟩ |
    ⟨failure, ⟨after, w'⟩, s', ran, spec_ran, tame, states⟩
  · obtain ⟨w'', made, reported⟩ :=
      instrumenter.report_ok name tame Option.none (shown value) w'
    simp only [ran, spec_ran, made]
    exact ⟨answers, hR w' w'' s' reported states⟩
  · obtain ⟨w'', made, reported⟩ :=
      instrumenter.report_ok name tame (some failure) .null w'
    simp only [ran, spec_ran, made]
    exact ⟨rfl, hR w' w'' s' reported states⟩

theorem Observed.ofRun_refines {run : Run α} {spec : EStateM Failure τ β}
    (h : MatchesFrom P R A run spec) : MatchesFrom (Watched P) (Watched R) A (ofRun run) spec := by
  intro w s hw
  obtain ⟨payload, w⟩ := w
  have ends := h w s hw.2
  unfold ofRun
  dsimp only
  rcases ends.elim with ⟨value, w', value', s', ran, spec_ran, answers, states⟩ |
    ⟨failure, w', s', ran, spec_ran, states⟩
  · rw [ran, spec_ran]
    exact ⟨answers, hw.1, states⟩
  · rw [ran, spec_ran]
    exact ⟨rfl, hw.1, states⟩

theorem Observed.ofRun_matches {run : Run α} {spec : EStateM Failure τ β}
    (h : Matches R A run spec) :
    Matches (Watched R) A (ofRun run) spec := ofRun_refines h

/-- A note in the payload changes nothing else. -/
theorem Observed.note_matches {name : String} (hn : TameField name) (value : Value) :
    Matches (Watched P) (fun _ _ => True) (note name value)
      (pure () : EStateM Failure τ Unit) :=
  fun _ _ hw => ⟨trivial, hw.1.put hn value, hw.2⟩

end Observed

end FeatureGates
