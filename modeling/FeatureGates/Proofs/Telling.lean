import FeatureGates.FlagSet.Basic
import FeatureGates.Proofs.Refinement

/-!
# Telling events

An instrumenter that records does so at the end of the world's list of
events, and nothing that runs looks at that list. So of two runs that are
put together alike, one of which is recorded and the other not, the first
ends like the second, and has told some events beside (`Tells`). What it
tells depends on the world that it starts from; it is found along with the
ways in which runs are put together, and an observed operation tells its
own event after those of the calls that it made
(`Instrumenter.observe_tells`).
-/

namespace FeatureGates

variable {α β : Type}

/-! ## States with events -/

/-- States in which events are recorded. -/
class Recording (σ : Type) where
  withEvents : σ → List Event → σ

namespace Recording

instance : Recording World := ⟨fun world events => { world with events }⟩

/-- While an operation is observed, events are recorded in the world that it goes on in. -/
instance : Recording (Payload × World) := ⟨fun s events => (s.1, withEvents s.2 events)⟩

variable {σ : Type} [Recording σ]

/-- An end with other events. -/
def endWith (events : List Event) : EStateM.Result Failure σ α → EStateM.Result Failure σ α
  | .ok a s => .ok a (withEvents s events)
  | .error failure s => .error failure (withEvents s events)

end Recording

open Recording

/-! ## Telling -/

variable {σ : Type} [Recording σ]

/-- The run ends as the quiet one does, whatever events there are, and adds a story to them. -/
def Tells (run quiet : EStateM Failure σ α) (story : σ → List Event) : Prop :=
  ∀ s events, run (withEvents s events) = endWith (events ++ story s) (quiet s)

/-- The run neither looks at events nor records any. -/
abbrev Uneventful (run : EStateM Failure σ α) : Prop := Tells run run fun _ => []

/-- What a run tells that is followed by another. -/
def sequel (quiet : EStateM Failure σ α) (story : σ → List Event) (later : α → σ → List Event) :
    σ → List Event := fun s =>
  story s ++ match quiet s with
    | .ok a s' => later a s'
    | .error _ _ => []

namespace Tells

variable {run quiet : EStateM Failure σ α} {story : σ → List Event}

theorem pure (a : α) : Uneventful (Pure.pure a : EStateM Failure σ α) := by
  intro s events
  show EStateM.Result.ok a _ = .ok a _
  rw [List.append_nil]

theorem throw (failure : Failure) :
    Uneventful (MonadExcept.throw failure : EStateM Failure σ α) := by
  intro s events
  show EStateM.Result.error failure _ = .error failure _
  rw [List.append_nil]

theorem bind {next quietNext : α → EStateM Failure σ β} {later : α → σ → List Event}
    (first : Tells run quiet story) (second : ∀ a, Tells (next a) (quietNext a) (later a)) :
    Tells (run >>= next) (quiet >>= quietNext) (sequel quiet story later) := by
  intro s events
  rw [bind_apply, bind_apply, first, sequel]
  cases quiet s with
  | ok a s' =>
    rw [← List.append_assoc]
    exact second a s' _
  | error failure s' => rw [List.append_nil]; rfl

theorem mono {story' : σ → List Event} (h : Tells run quiet story)
    (same : ∀ s, story s = story' s) : Tells run quiet story' := by
  intro s events
  rw [h, same]

/-- What comes after the last event. -/
theorem bind_uneventful {next quietNext : α → EStateM Failure σ β} (first : Tells run quiet story)
    (second : ∀ a, Tells (next a) (quietNext a) fun _ => []) :
    Tells (run >>= next) (quiet >>= quietNext) story :=
  (first.bind second).mono fun s => by
    unfold sequel
    cases quiet s <;> exact List.append_nil _

theorem map (h : Tells run quiet story) (f : α → β) : Tells (f <$> run) (f <$> quiet) story := by
  rw [map_eq_pure_bind, map_eq_pure_bind]
  exact h.bind_uneventful fun a => pure (f a)

/-- A run that looks at a state without its events. -/
theorem get_bind {next : σ → EStateM Failure σ α}
    (blind : ∀ s events, next (withEvents s events) = next s)
    (h : ∀ s, Uneventful (next s)) : Uneventful (get >>= next) := by
  intro s events
  rw [bind_apply, bind_apply, get_apply, get_apply]
  show next (withEvents s events) (withEvents s events) = _
  rw [blind]
  exact h s s events

theorem modify {f : σ → σ} (h : ∀ s events, f (withEvents s events) = withEvents (f s) events) :
    Uneventful (modify f : EStateM Failure σ Unit) := by
  intro s events
  rw [List.append_nil, modify_apply, h]
  rfl

end Tells

/-! ## Runs that tell nothing -/

namespace Run

theorem uneventful_ofCheck (check : Check α) : Uneventful (ofCheck check) := by
  intro w events
  have blind : (withEvents w events).surroundings = w.surroundings := rfl
  rw [List.append_nil]
  unfold ofCheck
  rw [blind]
  cases check.run w.surroundings <;> rfl

theorem uneventful_ofExcept (result : Except Failure α) : Uneventful (ofExcept result) := by
  cases result with
  | ok a => exact Tells.pure a
  | error failure => exact Tells.throw failure

theorem uneventful_file (name : String) (filing : Filing α) : Uneventful (file name filing) := by
  intro w events
  have blind : (withEvents w events).store name = w.store name := rfl
  rw [List.append_nil]
  unfold file
  dsimp only
  rw [blind]
  cases filing.run (w.store name).records <;> rfl

theorem uneventful_call (name operation : String) (keys : List String) :
    Uneventful (call name operation keys) := by
  refine (uneventful_ofCheck _).bind_uneventful fun _ => ?_
  refine Tells.get_bind (fun _ _ => rfl) fun w => ?_
  refine (Tells.modify fun _ _ => rfl).bind_uneventful fun _ => ?_
  cases (w.store name).outage (w.store name).calls operation with
  | some failure => exact Tells.throw failure
  | none => exact Tells.pure ()

theorem uneventful_recordsOf (name : String) : Uneventful (recordsOf name) :=
  Tells.get_bind (fun _ _ => rfl) fun _ => Tells.pure _

theorem uneventful_modifyCache (name : String) (change : Cache → Cache) :
    Uneventful (modifyCache name change) := Tells.modify fun _ _ => rfl

end Run

/-- An adapter that neither looks at events nor records any. -/
structure Adapter.Uneventful (adapter : Adapter) : Prop where
  read {α : Type} (r : Read α) : FeatureGates.Uneventful (adapter.read r)
  write (feature : String) (w : Write) : FeatureGates.Uneventful (adapter.write feature w)

theorem Adapter.uneventful_memory (store name : String) : (memory store name).Uneventful where
  read r := by
    show FeatureGates.Uneventful (readStore store r)
    refine (Run.uneventful_call store r.name r.subjects).bind_uneventful fun _ => ?_
    exact (Run.uneventful_recordsOf store).bind_uneventful fun _ => Tells.pure _
  write feature w := by
    show FeatureGates.Uneventful (writeStore store feature w)
    refine (Run.uneventful_call store w.name (w.keys feature)).bind_uneventful fun _ => ?_
    cases w with
    | disable slot thing =>
      refine (Run.uneventful_file store _).bind_uneventful fun cleared => ?_
      cases cleared with
      | true =>
        exact (Run.uneventful_call store _ _).bind_uneventful fun _ =>
          Run.uneventful_file store (Filing.clear feature)
      | false => exact Tells.pure true
    | _ => exact Run.uneventful_file store _

/-! ## Observed operations -/

namespace Observed

variable {run quiet : Run α} {story : World → List Event}

theorem ofRun_tells (h : Tells run quiet story) :
    Tells (ofRun run) (ofRun quiet) fun s => story s.2 := by
  rintro ⟨payload, w⟩ events
  have ran : run (withEvents w events) = _ := h w events
  show ofRun run (payload, withEvents w events) = endWith _ (ofRun quiet (payload, w))
  unfold ofRun
  dsimp only
  rw [ran]
  cases quiet w <;> rfl

/-- An operation that begins with a run, which leaves the payload alone. -/
theorem ofRun_bind_apply {next : α → Observed β} (payload : Payload) (w : World) :
    (ofRun run >>= next) (payload, w) = match run w with
      | .ok a w' => next a (payload, w')
      | .error failure w' => .error failure (payload, w') := by
  rw [bind_apply]
  unfold ofRun
  dsimp only
  cases run w <;> rfl

theorem note_tells (name : String) (value : Value) : Uneventful (note name value) :=
  Tells.modify fun _ _ => rfl

end Observed

/-- The event that is made of the end of an observed operation. -/
def Event.ofEnd (name : String) (shown : α → Value) :
    EStateM.Result Failure (Payload × World) α → Event
  | .ok a (payload, _) => ⟨name, payload, none, shown a⟩
  | .error failure (payload, _) => ⟨name, payload, some failure, .null⟩

namespace Instrumenter

/-- What is not observed ends as the operation does. -/
theorem observe_none_apply (name : String) (payload : List (String × Value)) (shown : α → Value)
    (operation : Observed α) (w : World) :
    observe .none name payload shown operation w = match operation (.ofRows payload, w) with
      | .ok a (_, w') => .ok a w'
      | .error failure (_, w') => .error failure w' := by
  unfold observe instrument
  dsimp only
  cases operation (.ofRows payload, w) <;> rfl

/-- What is recorded ends as the operation does, with one more event. -/
theorem observe_memory_apply (name : String) (payload : List (String × Value)) (shown : α → Value)
    (operation : Observed α) (w : World) :
    observe .memory name payload shown operation w =
      let event := Event.ofEnd name shown (operation (.ofRows payload, w))
      match operation (.ofRows payload, w) with
      | .ok a (_, w') => .ok a { w' with events := w'.events ++ [event] }
      | .error failure (_, w') => .error failure { w' with events := w'.events ++ [event] } := by
  unfold observe instrument
  dsimp only
  cases operation (.ofRows payload, w) <;> rfl

/-- An operation that is recorded ends as it does if it is not, and tells its own event last. -/
theorem observe_tells (name : String) (payload : List (String × Value)) (shown : α → Value)
    {operation quiet : Observed α} {story : Payload × World → List Event}
    (h : Tells operation quiet story) :
    Tells (observe .memory name payload shown operation) (observe .none name payload shown quiet)
      fun w => story (.ofRows payload, w) ++
        [Event.ofEnd name shown (quiet (.ofRows payload, w))] := by
  intro w events
  have ran : operation (.ofRows payload, withEvents w events) = _ := h (.ofRows payload, w) events
  rw [observe_memory_apply, observe_none_apply, ran, ← List.append_assoc]
  cases quiet (.ofRows payload, w) <;> rfl

end Instrumenter

end FeatureGates
