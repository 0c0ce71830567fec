/-!
# Refinement of runs

A run and its specification go on in states of their own and may fail.
`Refines P run spec Q E` says that from states related by `P` both give
values, related by `Q` together with the states they end in, or both fail
in the same way, in states related by `E`.

The rules follow the ways runs are put together. Most runs keep one
relation of states whether they succeed or fail; for these there is
`Matches`, which says besides how the values are related.
-/

namespace FeatureGates

variable {ε σ τ υ α β γ δ : Type}

/-- Two ends agree: related values and states, or one failure and related states. -/
def Ends (Q : α → β → σ → τ → Prop) (E : σ → τ → Prop) :
    EStateM.Result ε σ α → EStateM.Result ε τ β → Prop
  | .ok a s, .ok b t => Q a b s t
  | .error e s, .error f t => e = f ∧ E s t
  | _, _ => False

/-- From states related by `P` the two runs end alike. -/
def Refines (P : σ → τ → Prop) (run : EStateM ε σ α) (spec : EStateM ε τ β)
    (Q : α → β → σ → τ → Prop) (E : σ → τ → Prop) : Prop :=
  ∀ s t, P s t → Ends Q E (run s) (spec t)

/-- The two runs keep a relation of states and give related values. -/
def Matches (R : σ → τ → Prop) (A : α → β → Prop) (run : EStateM ε σ α) (spec : EStateM ε τ β) :
    Prop :=
  Refines R run spec (fun a b s t => A a b ∧ R s t) R

/-- From states related by `P` the two runs give related values, or fail alike, and leave states
related by `R`. -/
abbrev MatchesFrom (P R : σ → τ → Prop) (A : α → β → Prop) (run : EStateM ε σ α)
    (spec : EStateM ε τ β) : Prop :=
  Refines P run spec (fun a b s t => A a b ∧ R s t) R

/-! ## Ends -/

namespace Ends

variable {Q Q' : α → β → σ → τ → Prop} {E E' : σ → τ → Prop}
  {x : EStateM.Result ε σ α} {y : EStateM.Result ε τ β}

theorem mono (h : Ends Q E x y) (hQ : ∀ a b s t, Q a b s t → Q' a b s t)
    (hE : ∀ s t, E s t → E' s t) : Ends Q' E' x y := by
  cases x with
  | ok a s =>
    cases y with
    | ok b t => exact hQ a b s t h
    | error f t => exact h
  | error e s =>
    cases y with
    | ok b t => exact h
    | error f t => exact ⟨h.1, hE s t h.2⟩

/-- The two ways to agree. -/
theorem elim (h : Ends Q E x y) :
    (∃ a s b t, x = .ok a s ∧ y = .ok b t ∧ Q a b s t) ∨
      ∃ e s t, x = .error e s ∧ y = .error e t ∧ E s t := by
  cases x with
  | ok a s =>
    cases y with
    | ok b t => exact .inl ⟨a, s, b, t, rfl, rfl, h⟩
    | error f t => exact h.elim
  | error e s =>
    cases y with
    | ok b t => exact h.elim
    | error f t =>
      obtain ⟨rfl, states⟩ := h
      exact .inr ⟨e, s, t, rfl, rfl, states⟩

/-- What ends like something that ends like a third thing. -/
theorem trans {S : β → γ → τ → υ → Prop} {F : τ → υ → Prop} {z : EStateM.Result ε υ γ}
    (h : Ends Q E x y) (h' : Ends S F y z) :
    Ends (fun a c s u => ∃ b t, Q a b s t ∧ S b c t u) (fun s u => ∃ t, E s t ∧ F t u) x z := by
  rcases h.elim with ⟨a, s, b, t, rfl, rfl, first⟩ | ⟨e, s, t, rfl, rfl, first⟩
  · rcases h'.elim with ⟨_, _, c, u, same, rfl, second⟩ | ⟨_, _, _, same, _, _⟩
    · cases same
      exact ⟨b, t, first, second⟩
    · cases same
  · rcases h'.elim with ⟨_, _, _, _, same, _, _⟩ | ⟨_, _, u, same, rfl, second⟩
    · cases same
    · cases same
      exact ⟨rfl, t, first, second⟩

/-- The first run gives a value if the second does. -/
theorem of_ok {b : β} {t : τ} (h : Ends Q E x (.ok b t)) : ∃ a s, x = .ok a s ∧ Q a b s t := by
  cases x with
  | ok a s => exact ⟨a, s, rfl, h⟩
  | error e s => exact False.elim h

/-- The first run fails if the second does, in the same way. -/
theorem of_error {e : ε} {t : τ} (h : Ends Q E x (.error e t)) : ∃ s, x = .error e s ∧ E s t := by
  cases x with
  | ok a s => exact False.elim h
  | error f s =>
    obtain ⟨rfl, states⟩ := h
    exact ⟨s, rfl, states⟩

end Ends

/-! ## Rules -/

namespace Refines

variable {P P' : σ → τ → Prop} {run : EStateM ε σ α} {spec : EStateM ε τ β}
  {Q Q' : α → β → σ → τ → Prop} {E E' : σ → τ → Prop}

theorem mono (h : Refines P run spec Q E) (hP : ∀ s t, P' s t → P s t)
    (hQ : ∀ a b s t, Q a b s t → Q' a b s t) (hE : ∀ s t, E s t → E' s t) :
    Refines P' run spec Q' E' := fun s t hp => (h s t (hP s t hp)).mono hQ hE

/-- What is known of the specification alone may be added. -/
theorem and_spec {T : τ → Prop} (h : Refines P run spec Q E)
    (hT : ∀ s t b t', P s t → spec t = .ok b t' → T t') :
    Refines P run spec (fun a b s t => Q a b s t ∧ T t) E := by
  intro s t hp
  rcases (h s t hp).elim with ⟨a, s', b, t', hx, hy, related⟩ | ⟨e, s', t', hx, hy, related⟩
  · rw [hx, hy]
    exact ⟨related, hT s t b t' hp hy⟩
  · rw [hx, hy]
    exact ⟨rfl, related⟩

theorem pure {a : α} {b : β} (h : ∀ s t, P s t → Q a b s t) :
    Refines P (Pure.pure a : EStateM ε σ α) (Pure.pure b) Q E := fun s t hp => h s t hp

theorem throw {e : ε} (h : ∀ s t, P s t → E s t) :
    Refines P (MonadExcept.throw e : EStateM ε σ α) (MonadExcept.throw e : EStateM ε τ β) Q E :=
  fun s t hp => ⟨rfl, h s t hp⟩

theorem bind {f : α → EStateM ε σ γ} {g : β → EStateM ε τ δ} {S : γ → δ → σ → τ → Prop}
    (first : Refines P run spec Q E) (second : ∀ a b, Refines (Q a b) (f a) (g b) S E) :
    Refines P (run >>= f) (spec >>= g) S E := by
  intro s t hp
  have ends := first s t hp
  show Ends S E (EStateM.bind run f s) (EStateM.bind spec g t)
  unfold EStateM.bind
  rcases ends.elim with ⟨a, s', b, t', hx, hy, related⟩ | ⟨e, s', t', hx, hy, related⟩
  · rw [hx, hy]
    exact second a b s' t' related
  · rw [hx, hy]
    exact ⟨rfl, related⟩

theorem map {f : α → γ} {g : β → δ} {S : γ → δ → σ → τ → Prop}
    (first : Refines P run spec Q E) (second : ∀ a b s t, Q a b s t → S (f a) (g b) s t) :
    Refines P (f <$> run) (g <$> spec) S E := by
  rw [map_eq_pure_bind, map_eq_pure_bind]
  exact first.bind fun a b => Refines.pure (second a b)

/-- A failure that is handled on one side is handled on the other. -/
theorem tryCatch {handle : ε → EStateM ε σ α} {handle' : ε → EStateM ε τ β}
    (first : Refines P run spec Q E)
    (second : ∀ e, Refines E (handle e) (handle' e) Q E') :
    Refines P (MonadExcept.tryCatch run handle) (MonadExcept.tryCatch spec handle') Q E' := by
  intro s t hp
  have ends := first s t hp
  show Ends Q E' (EStateM.tryCatch run handle s) (EStateM.tryCatch spec handle' t)
  unfold EStateM.tryCatch
  rcases ends.elim with ⟨a, s', b, t', hx, hy, related⟩ | ⟨e, s', t', hx, hy, related⟩
  · rw [hx, hy]
    exact related
  · rw [hx, hy]
    exact second e s' t' related

end Refines

namespace Matches

variable {R : σ → τ → Prop} {A B : α → β → Prop} {C : γ → δ → Prop}
  {run : EStateM ε σ α} {spec : EStateM ε τ β}

theorem mono (h : Matches R A run spec) (hA : ∀ a b, A a b → B a b) : Matches R B run spec :=
  Refines.mono h (fun _ _ h => h) (fun a b _ _ h => ⟨hA a b h.1, h.2⟩) fun _ _ h => h

theorem refl (run : EStateM ε σ α) : Matches Eq Eq run run := by
  rintro s _ rfl
  cases run s with
  | ok a t => exact ⟨rfl, rfl⟩
  | error e t => exact ⟨rfl, rfl⟩

theorem pure {a : α} {b : β} (h : A a b) :
    Matches R A (Pure.pure a : EStateM ε σ α) (Pure.pure b) :=
  Refines.pure fun _ _ hr => ⟨h, hr⟩

theorem throw (e : ε) :
    Matches R A (MonadExcept.throw e : EStateM ε σ α) (MonadExcept.throw e : EStateM ε τ β) :=
  Refines.throw fun _ _ hr => hr

theorem bind {f : α → EStateM ε σ γ} {g : β → EStateM ε τ δ} (first : Matches R A run spec)
    (second : ∀ a b, A a b → Matches R C (f a) (g b)) : Matches R C (run >>= f) (spec >>= g) :=
  Refines.bind first fun a b s t h => second a b h.1 s t h.2

/-- A step without a counterpart may come first. -/
theorem skip_bind {f : α → EStateM ε σ γ} {next : EStateM ε τ δ}
    (first : Matches R (fun _ _ => True) run (Pure.pure () : EStateM ε τ Unit))
    (second : ∀ a, Matches R C (f a) next) : Matches R C (run >>= f) next := by
  have both := first.bind (g := fun _ => next) fun a _ _ => second a
  rwa [pure_bind] at both

theorem tryCatch {handle : ε → EStateM ε σ α} {handle' : ε → EStateM ε τ β}
    (first : Matches R A run spec) (second : ∀ e, Matches R A (handle e) (handle' e)) :
    Matches R A (MonadExcept.tryCatch run handle) (MonadExcept.tryCatch spec handle') :=
  Refines.tryCatch first second

end Matches

namespace MatchesFrom

variable {P R : σ → τ → Prop} {A : α → β → Prop} {C : γ → δ → Prop}
  {run : EStateM ε σ α} {spec : EStateM ε τ β}

theorem bind {f : α → EStateM ε σ γ} {g : β → EStateM ε τ δ} (first : MatchesFrom P R A run spec)
    (second : ∀ a b, A a b → Matches R C (f a) (g b)) :
    MatchesFrom P R C (run >>= f) (spec >>= g) :=
  Refines.bind first fun a b s t h => second a b h.1 s t h.2

theorem map {f : α → γ} {g : β → δ} (first : MatchesFrom P R A run spec)
    (second : ∀ a b, A a b → C (f a) (g b)) : MatchesFrom P R C (f <$> run) (g <$> spec) :=
  Refines.map first fun a b _ _ h => ⟨second a b h.1, h.2⟩

end MatchesFrom

/-! ## Running -/

theorem bind_apply (x : EStateM ε σ α) (f : α → EStateM ε σ β) (s : σ) :
    (x >>= f) s = match x s with
      | .ok a s => f a s
      | .error e s => .error e s := by
  show EStateM.bind x f s = _
  unfold EStateM.bind
  cases x s <;> rfl

theorem pure_apply (a : α) (s : σ) : (pure a : EStateM ε σ α) s = .ok a s := rfl

theorem throw_apply (e : ε) (s : σ) : (throw e : EStateM ε σ α) s = .error e s := rfl

theorem get_apply (s : σ) : (get : EStateM ε σ σ) s = .ok s s := rfl

theorem modify_apply (f : σ → σ) (s : σ) : (modify f : EStateM ε σ Unit) s = .ok () (f s) := rfl

/-- A run that ends with an answer makes it of what comes before. -/
theorem exists_of_bind_pure {x : EStateM ε σ α} {f : α → β} {s t : σ} {b : β}
    (h : (x >>= fun a => pure (f a)) s = .ok b t) : ∃ a, x s = .ok a t ∧ f a = b := by
  rw [bind_apply] at h
  cases ran : x s with
  | ok a after =>
    rw [ran] at h
    cases h
    exact ⟨a, rfl, rfl⟩
  | error e after =>
    rw [ran] at h
    cases h

/-- A run that ends with an answer fails where what comes before does. -/
theorem failed_of_bind_pure {x : EStateM ε σ α} {f : α → β} {s t : σ} {e : ε}
    (h : (x >>= fun a => pure (f a)) s = .error e t) : x s = .error e t := by
  rw [bind_apply] at h
  cases ran : x s with
  | ok a after =>
    rw [ran] at h
    cases h
  | error e after =>
    rw [ran] at h
    cases h
    rfl

/-! ## Results -/

/-- A sequence succeeds only if each of its parts does. -/
theorem exists_of_bind_eq_ok {x : Except ε α} {f : α → Except ε β} {b : β}
    (h : (x >>= f) = .ok b) : ∃ a, x = .ok a ∧ f a = .ok b := by
  cases x with
  | ok a => exact ⟨a, rfl, h⟩
  | error e => cases h

theorem exists_of_map_eq_ok {x : Except ε α} {f : α → β} {b : β} (h : x.map f = .ok b) :
    ∃ a, x = .ok a ∧ f a = b := by
  cases x with
  | ok a => exact ⟨a, rfl, Except.ok.inj h⟩
  | error e => cases h

end FeatureGates
