import FeatureGates.Proofs.Actions

/-!
# Questions about flags are those of the reference machine

Every question reads the typed values of one feature, or the names of all,
and looks at nothing else of the adapter. Asking the gates goes on with a
check; it is alike on both sides if what is added to checks is oblivious.

So a question is answered as the machine answers it if its read is
(`FlagSet.ask_matches`); what is so before that read need not be so after
it, except for an overview, which reads twice. Together with the demands
that is every action (`FlagSet.run_matches`).
-/

namespace FeatureGates

/-- The name of the read that a question makes. -/
def Action.readName : Action → String
  | .exist => Read.features.name
  | _ => "get"

namespace FlagSet

variable {flags : FlagSet} {rules : Rules} {P R : World → ReferenceState → Prop} {feature : String}

theorem gateValues_matches (h : Responds flags.adapter rules P R (.get feature)) :
    MatchesFrom P R Eq (flags.gateValues feature) ((flags.reference rules).values feature) := by
  refine MatchesFrom.bind h ?_
  intro raw raw' alike
  have alike : GateValues.ofEntries raw = GateValues.ofEntries raw' := alike
  rw [alike]
  exact Run.ofExcept_matches _

theorem exist_matches (hR : Grounded R) (h : Responds flags.adapter rules P R .features)
    (feature : String) :
    MatchesFrom P R Eq (flags.exist feature) ((flags.reference rules).exist feature) := by
  refine observe_refines hR.unseeing.unreported flags feature _ ?_
  refine (Observed.ofRun_refines h).bind ?_
  intro names names' same
  have same : names = names' := same
  exact .pure (congrArg (NameSet.contains · feature) same)

theorem subjectOf_matches (thing : Value) :
    Matches (Watched R) Eq (subjectOf thing) (Reference.subjectOf thing) := by
  unfold subjectOf Reference.subjectOf
  cases thing.isNull with
  | true => exact .pure rfl
  | false =>
    refine (Observed.note_matches (by decide) thing).skip_bind fun _ => ?_
    refine (Observed.ofRun_matches (Run.ofExcept_matches _)).bind ?_
    intro s _ same
    exact .pure (congrArg some same)

/-- What a check knows beside the feature; nothing of it looks at what was seen. -/
theorem environment_matches (hR : Grounded R) (hm : flags.meaning.Oblivious)
    (hg : ∀ {w s}, R w s → s.groups.Oblivious) :
    Matches R (fun a b => a = b ∧ b.Oblivious) flags.environment
      (do return ⟨flags.registry, flags.meaning, (← get).groups⟩ : Machine Environment) := by
  intro w s hr
  show (_ ∧ _) ∧ _
  exact ⟨⟨congrArg _ (hR.groups hr), hm, hg hr⟩, hr⟩

/-- Asking the gates, whatever is made known of the first one that is open. -/
theorem firstOpen_matches (hR : Grounded R) {environment : Environment}
    (ho : environment.Oblivious) (context : CheckContext) {announce : Option Gate → Observed Bool}
    (ha : ∀ gate, Matches (Watched R) Eq (announce gate) (pure gate.isSome)) :
    Matches (Watched R) Eq
      (Observed.ofRun (Run.ofCheck (Gate.firstOpen environment context)) >>= announce)
      (do return (← Machine.ofCheck (Gate.firstOpen environment context)).isSome) := by
  have check := Gate.oblivious_firstOpen ho context
  refine (Observed.ofRun_matches (Run.ofCheck_matches hR check)).bind ?_
  intro gate _ same
  rw [← same]
  exact ha gate

/-- Asking whether a feature is enabled. -/
theorem isEnabled_matches (hR : Grounded R) (h : Responds flags.adapter rules P R (.get feature))
    (hm : flags.meaning.Oblivious) (hg : ∀ {w s}, R w s → s.groups.Oblivious) (thing : Value) :
    MatchesFrom P R Eq (flags.isEnabled feature thing)
      ((flags.reference rules).isEnabled feature thing) := by
  refine observe_refines hR.unseeing.unreported flags feature _ ?_
  refine (Observed.ofRun_refines (gateValues_matches h)).bind ?_
  intro values _ same
  rw [← same]
  refine (subjectOf_matches thing).bind ?_
  intro subject _ same
  rw [← same]
  have both {announce : Option Gate → Observed Bool}
      (ha : ∀ gate, Matches (Watched R) Eq (announce gate) (pure gate.isSome)) :=
    (Observed.ofRun_matches (environment_matches hR hm hg)).bind (C := Eq)
      fun environment _ same => by
        obtain ⟨rfl, oblivious⟩ := same
        exact firstOpen_matches hR oblivious ⟨feature, values, subject⟩ ha
  simp only [bind_assoc, pure_bind] at both
  refine both ?_
  intro gate
  cases gate with
  | some gate => exact (Observed.note_matches (by decide) _).skip_bind fun _ => .pure rfl
  | none => exact .pure rfl

theorem state_matches (h : Responds flags.adapter rules P R (.get feature)) :
    MatchesFrom P R Eq (flags.state feature) ((flags.reference rules).state feature) :=
  (gateValues_matches h).bind fun _ _ same => .pure (congrArg GateValues.state same)

/-- The gates that stored values open, or that they do not. -/
theorem gatesOf_matches (h : Responds flags.adapter rules P R (.get feature)) (enabled : Bool) :
    MatchesFrom P R Eq (Action.gatesOf flags feature enabled)
      ((flags.reference rules).gatesOf feature enabled) := by
  cases enabled with
  | true =>
    refine (gateValues_matches h).bind ?_
    intro values _ same
    rw [← same]
    exact .pure (List.filter_congr fun gate _ => by simp)
  | false =>
    simp only [Action.gatesOf, Bool.false_eq_true, if_false, disabledGates, enabledGates,
      bind_assoc, pure_bind]
    refine (gateValues_matches h).bind ?_
    intro values _ same
    rw [← same]
    refine .pure (List.filter_congr fun gate _ => ?_)
    have open_iff : (Gate.order.filter values.opens).contains gate = values.opens gate := by
      rw [Bool.eq_iff_iff, List.contains_iff_mem, List.mem_filter]
      exact and_iff_right gate.mem_order
    rw [open_iff]
    cases values.opens gate <;> rfl

theorem groupsThatAre_matches (hR : Grounded R)
    (h : Responds flags.adapter rules P R (.get feature)) (enabled : Bool) :
    MatchesFrom P R Eq (flags.groupsThatAre enabled feature)
      ((flags.reference rules).groupsThatAre enabled feature) := by
  refine (gateValues_matches h).bind ?_
  intro values _ same
  rw [← same]
  intro w s hr
  have groups := hR.groups hr
  refine ⟨?_, hr⟩
  show (w.groups.rows.filter _).map _ = (s.groups.rows.filter _).map _
  rw [groups]

theorem overview_matches (h : Responds flags.adapter rules P R (.get feature))
    (again : Responds flags.adapter rules R R (.get feature)) :
    MatchesFrom P R Eq (flags.overview feature) ((flags.reference rules).overview feature) := by
  have twice := Reference.values_again (flags.reference rules) feature fun v w =>
    (pure ⟨feature, v.state, Gate.order.filter w.opens, (flags.reference rules).adapterName⟩ :
      Machine Overview)
  unfold Reference.overview
  rw [← twice]
  simp only [overview, state, enabledGates, bind_assoc, pure_bind]
  refine (gateValues_matches h).bind ?_
  intro v _ same
  rw [← same]
  refine (gateValues_matches again).bind ?_
  intro w _ same
  rw [← same]
  exact .pure rfl

/-- A question is answered as the machine answers it if its read is. -/
theorem ask_matches (hR : Grounded R) (hm : flags.meaning.Oblivious)
    (hg : ∀ {w s}, R w s → s.groups.Oblivious) {action : Action}
    (h : action.demand? flags.registry = none)
    (hr : ∀ {α : Type} (r : Read α), r.name = action.readName → Responds flags.adapter rules P R r)
    (again : action = .overview → Responds flags.adapter rules R R (.get feature)) :
    MatchesFrom P R Eq (action.run flags feature) ((flags.reference rules).ask feature action) := by
  cases action with
  | exist =>
    exact (exist_matches hR (hr .features rfl) feature).map fun _ _ => congrArg Answer.truth
  | isEnabled thing =>
    exact (isEnabled_matches hR (hr (.get feature) rfl) hm hg thing).map
      fun _ _ => congrArg Answer.truth
  | state => exact (state_matches (hr (.get feature) rfl)).map fun _ _ => congrArg Answer.state
  | hasState s =>
    exact (state_matches (hr (.get feature) rfl)).bind fun _ _ same =>
      .pure (congrArg (fun t => Answer.truth (t = s)) same)
  | gateValues =>
    exact (gateValues_matches (hr (.get feature) rfl)).map fun _ _ => congrArg Answer.values
  | gateValue gate =>
    exact (gateValues_matches (hr (.get feature) rfl)).bind fun _ _ same =>
      .pure (congrArg (fun values => Answer.value (values.get gate)) same)
  | gatesThatAre enabled =>
    exact (gatesOf_matches (hr (.get feature) rfl) enabled).map fun _ _ => congrArg Answer.gates
  | gateNamesThatAre enabled =>
    exact (gatesOf_matches (hr (.get feature) rfl) enabled).bind fun _ _ same =>
      .pure (congrArg (fun gates => Answer.names (gates.map Gate.name)) same)
  | groupsThatAre enabled =>
    exact (groupsThatAre_matches hR (hr (.get feature) rfl) enabled).map
      fun _ _ => congrArg Answer.groups
  | overview =>
    exact (overview_matches (hr (.get feature) rfl) (again rfl)).map
      fun _ _ => congrArg Answer.overview
  | _ => cases h

/-- Behind an adapter that serves, every action ends like the machine's. -/
theorem run_matches (hs : Serves flags.adapter rules R) (hr : rules.Sound)
    (hm : flags.meaning.Oblivious) (hg : ∀ {w s}, R w s → s.groups.Oblivious) (feature : String)
    (action : Action) :
    Matches R Eq (action.run flags feature) ((flags.reference rules).run feature action) := by
  unfold Reference.run
  cases demanded : action.demand? (flags.reference rules).registry with
  | some demand => exact demand_matches hs hr feature demanded
  | none =>
    exact ask_matches hs.grounded hm hg demanded (fun r _ => hs.read r) fun _ => hs.read _

end FlagSet

end FeatureGates
