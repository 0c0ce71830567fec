import FeatureGates.Proofs.Refinement

/-!
# What runs keep

A run *keeps* a property of states if the property goes on to hold where the
run ends, whether that is with a value or with a failure (`Keeps`). What
has happened before a failure stays, so a property that only successful runs
kept would be of no use to whoever runs something else afterwards.

A run that ends with a value, wherever the property holds, and keeps it,
*succeeds* under it (`Succeeds`).

The rules follow the ways runs are put together, as those of refinement do.
-/

namespace FeatureGates

variable {ε σ α β : Type} {I : σ → Prop}

/-- Whether it succeeds or fails, the run keeps what is so of the state. -/
def Keeps (I : σ → Prop) (run : EStateM ε σ α) : Prop :=
  ∀ s, I s → match run s with
    | .ok _ t => I t
    | .error _ t => I t

namespace Keeps

variable {run : EStateM ε σ α} {s t : σ}

theorem of_ok {a : α} (h : Keeps I run) (hs : I s) (ran : run s = .ok a t) : I t := by
  have kept := h s hs
  rwa [ran] at kept

theorem of_error {e : ε} (h : Keeps I run) (hs : I s) (ran : run s = .error e t) : I t := by
  have kept := h s hs
  rwa [ran] at kept

theorem pure (a : α) : Keeps I (Pure.pure a : EStateM ε σ α) := fun _ h => h

theorem throw (e : ε) : Keeps I (MonadExcept.throw e : EStateM ε σ α) := fun _ h => h

theorem modify {f : σ → σ} (h : ∀ s, I s → I (f s)) :
    Keeps I (MonadState.modifyGet fun s => ((), f s) : EStateM ε σ Unit) := fun s hs => h s hs

theorem bind {next : α → EStateM ε σ β} (first : Keeps I run) (second : ∀ a, Keeps I (next a)) :
    Keeps I (run >>= next) := by
  intro s hs
  rw [bind_apply]
  cases ran : run s with
  | ok a t => exact second a t (first.of_ok hs ran)
  | error e t => exact first.of_error hs ran

theorem get_bind {next : σ → EStateM ε σ α} (h : ∀ s, Keeps I (next s)) :
    Keeps I (get >>= next) := fun s hs => h s s hs

theorem map {f : α → β} (h : Keeps I run) : Keeps I (f <$> run) := by
  rw [map_eq_pure_bind]
  exact h.bind fun _ => .pure _

theorem tryCatch {handle : ε → EStateM ε σ α} (h : Keeps I run) (hh : ∀ e, Keeps I (handle e)) :
    Keeps I (MonadExcept.tryCatch run handle) := by
  intro s hs
  show match EStateM.tryCatch run handle s with | .ok _ t => I t | .error _ t => I t
  unfold EStateM.tryCatch
  cases ran : run s with
  | ok a t => exact h.of_ok hs ran
  | error e t => exact hh e t (h.of_error hs ran)

theorem ite {p : Prop} [Decidable p] {a b : EStateM ε σ α} (ha : Keeps I a) (hb : Keeps I b) :
    Keeps I (if p then a else b) := by
  split
  · exact ha
  · exact hb

end Keeps

/-- Something is so of the state in which a run has ended. -/
def Leaves (I : σ → Prop) : EStateM.Result ε σ α → Prop
  | .ok _ t => I t
  | .error _ t => I t

theorem Keeps.leaves {run : EStateM ε σ α} (h : Keeps I run) {s : σ} (hs : I s) :
    Leaves I (run s) := by
  cases ran : run s with
  | ok a t => exact h.of_ok hs ran
  | error e t => exact h.of_error hs ran

theorem Keeps.of_leaves {run : EStateM ε σ α} (h : ∀ s, I s → Leaves I (run s)) : Keeps I run := by
  intro s hs
  have left := h s hs
  cases ran : run s <;> rwa [ran] at left

/-- Where something is so of the state the run gives a value, and it is so of the state again. -/
def Succeeds (I : σ → Prop) (run : EStateM ε σ α) : Prop :=
  ∀ s, I s → ∃ a t, run s = .ok a t ∧ I t

namespace Succeeds

variable {run : EStateM ε σ α}

theorem pure (a : α) : Succeeds I (Pure.pure a : EStateM ε σ α) := fun s hs => ⟨a, s, rfl, hs⟩

theorem bind {next : α → EStateM ε σ β} (first : Succeeds I run)
    (second : ∀ a, Succeeds I (next a)) : Succeeds I (run >>= next) := by
  intro s hs
  obtain ⟨a, t, ran, ht⟩ := first s hs
  rw [bind_apply, ran]
  exact second a t ht

theorem get_bind {next : σ → EStateM ε σ α} (h : ∀ s, Succeeds I (next s)) :
    Succeeds I (get >>= next) := fun s hs => h s s hs

theorem map {f : α → β} (h : Succeeds I run) : Succeeds I (f <$> run) := by
  rw [map_eq_pure_bind]
  exact h.bind fun _ => .pure _

theorem ite {p : Prop} [Decidable p] {a b : EStateM ε σ α} (ha : Succeeds I a)
    (hb : Succeeds I b) : Succeeds I (if p then a else b) := by
  split
  · exact ha
  · exact hb

/-- A failure that is handled is none. -/
theorem tryCatch {handle : ε → EStateM ε σ α} (h : Keeps I run)
    (hh : ∀ e, Succeeds I (handle e)) : Succeeds I (MonadExcept.tryCatch run handle) := by
  intro s hs
  show ∃ a t, EStateM.tryCatch run handle s = .ok a t ∧ I t
  unfold EStateM.tryCatch
  cases ran : run s with
  | ok a t => exact ⟨a, t, rfl, h.of_ok hs ran⟩
  | error e t => exact hh e t (h.of_error hs ran)

end Succeeds

/-- What both ways to agree with something say of the state is so at the end. -/
theorem Ends.keeps {τ : Type} {Q : α → β → σ → τ → Prop} {E : σ → τ → Prop}
    {x : EStateM.Result ε σ α} {y : EStateM.Result ε τ β} (hQ : ∀ a b s t, Q a b s t → I s)
    (hE : ∀ s t, E s t → I s) : Ends Q E x y →
    match x with
    | .ok _ s => I s
    | .error _ s => I s := by
  intro h
  rcases h.elim with ⟨a, s, b, t, rfl, -, held⟩ | ⟨e, s, t, rfl, -, held⟩
  · exact hQ a b s t held
  · exact hE s t held

end FeatureGates
