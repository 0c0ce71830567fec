import FeatureGates.Proofs.Keeping
import FeatureGates.Proofs.Watching

/-!
# Reports of operations on features

An operation on a feature is reported with what is noted of it: the feature
and the operation from the first, and what else comes up while it runs. A
demand notes the gate that it goes to, and the thing, before it is met
(`FlagSet.meetBody`), and nothing notes anything in their place
(`Observed.Notes`). Asking whether a feature is enabled notes a gate just if
it is, and then the first one in order that is open
(`FlagSet.isEnabledBody_ends`).
-/

namespace FeatureGates

open Recording

variable {α : Type}

/-! ## Notes -/

namespace Observed

/-- Notes some fields, one after the other. -/
def noteAll : List (String × Value) → Observed Unit
  | [] => pure ()
  | (name, value) :: rest => do
    note name value
    noteAll rest

theorem noteAll_tells (rows : List (String × Value)) : Uneventful (noteAll rows) := by
  induction rows with
  | nil => exact Tells.pure ()
  | cons row rest ih => exact (note_tells row.1 row.2).bind_uneventful fun _ => ih

theorem noteAll_apply (rows : List (String × Value)) (payload : Payload) (w : World) :
    noteAll rows (payload, w) =
      .ok () (rows.foldl (fun payload row => payload.put row.1 row.2) payload, w) := by
  induction rows generalizing payload with
  | nil => rfl
  | cons row rest ih => exact ih (payload.put row.1 row.2)

/-- What is noted in the payload of an operation under a name, if anything. -/
def Notes (name : String) (noted? : Option Value) (s : Payload × World) : Prop :=
  s.1.find? name = noted?

variable {name : String} {noted? : Option Value}

theorem notes_ofRun (run : Run α) : Keeps (Notes name noted?) (ofRun run) := by
  intro s hs
  unfold ofRun
  dsimp only
  cases run s.2 <;> exact hs

theorem notes_note {other : String} (h : name ≠ other) (value : Value) :
    Keeps (Notes name noted?) (note other value) := by
  refine Keeps.modify fun s hs => ?_
  show (s.1.put other value).find? name = noted?
  rw [Table.find?_put, if_neg h]
  exact hs

theorem notes_noteAll {rows : List (String × Value)} (h : ∀ row ∈ rows, name ≠ row.1) :
    Keeps (Notes name noted?) (noteAll rows) := by
  induction rows with
  | nil => exact .pure ()
  | cons row rest ih =>
    obtain ⟨first, others⟩ := List.forall_mem_cons.1 h
    exact (notes_note first row.2).bind fun _ => ih others

end Observed

/-- What is noted at first and kept is in the event. -/
theorem Event.find?_ofEnd {name : String} {noted? : Option Value} {kind : String}
    {shown : α → Value} {body : Observed α} {payload : Payload} {w : World}
    (kept : Keeps (Observed.Notes name noted?) body) (start : payload.find? name = noted?) :
    (ofEnd kind shown (body (payload, w))).payload.find? name = noted? := by
  have ended := kept (payload, w) start
  cases ran : body (payload, w) <;> rw [ran] at ended <;> exact ended

/-! ## Own events -/

/-- The payload that the operations on a feature start with. -/
def ownPayload (feature operation : String) : Payload :=
  .ofRows [("feature_name", .text feature), ("operation", .text operation)]

/-- The event of an operation on a feature that was begun in a world. -/
def Event.own (feature operation : String) (body : Observed Bool) (w : World) : Event :=
  ofEnd featureOperation Value.bool (body (ownPayload feature operation, w))

namespace Event

variable (feature operation : String) (body : Observed Bool) (w : World)

theorem name_own : (own feature operation body w).name = featureOperation := by
  unfold own
  cases body (ownPayload feature operation, w) <;> rfl

variable {body}

theorem feature_own
    (kept : ∀ noted?, Keeps (Observed.Notes "feature_name" noted?) body) :
    (own feature operation body w).payload.find? "feature_name" = some (.text feature) := by
  refine find?_ofEnd (kept _) ?_
  rw [ownPayload, Table.find?_ofRows]
  rfl

theorem operation_own
    (kept : ∀ noted?, Keeps (Observed.Notes "operation" noted?) body) :
    (own feature operation body w).payload.find? "operation" = some (.text operation) := by
  refine find?_ofEnd (kept _) ?_
  rw [ownPayload, Table.find?_ofRows]
  rfl

/-- An event of an action that no one else watches ends as the action does. -/
theorem ending_own {flags : FlagSet} (unwatched : flags.instrumenter = .none) {action : Action}
    (same : action.run flags feature = Answer.truth <$> flags.observe feature operation body) :
    match action.run flags feature w with
    | .ok answer _ => (own feature operation body w).failure = none ∧
      ∃ b, answer = .truth b ∧ (own feature operation body w).result = .bool b
    | .error failure _ => (own feature operation body w).failure = some failure ∧
      (own feature operation body w).result = .null := by
  have ran : flags.observe feature operation body w =
      match body (ownPayload feature operation, w) with
      | .ok b (_, w') => .ok b w'
      | .error failure (_, w') => .error failure w' := by
    unfold FlagSet.observe
    rw [unwatched, Instrumenter.observe_none_apply, ← ownPayload]
    cases body (ownPayload feature operation, w) <;> rfl
  unfold own
  rw [same, map_eq_pure_bind, bind_apply, ran]
  cases body (ownPayload feature operation, w) with
  | ok b s => exact ⟨rfl, b, rfl, rfl⟩
  | error failure s => exact ⟨rfl, rfl⟩

end Event

namespace FlagSet

variable {watched quiet : FlagSet}

/-- An observed operation tells its own event after what it tells by itself. -/
theorem Watches.observe (h : watched.Watches quiet) (feature operation : String)
    {body quietBody : Observed Bool} {story : Payload × World → List Event}
    (told : Tells body quietBody story) :
    Tells (watched.observe feature operation body) (quiet.observe feature operation quietBody)
      fun w => story (ownPayload feature operation, w) ++
        [Event.own feature operation quietBody w] := by
  unfold FlagSet.observe
  rw [h.recorded, h.unwatched]
  exact Instrumenter.observe_tells _ _ _ told

end FlagSet

/-! ## Demands -/

namespace Demand

/-- The name that the operation is observed under which meets a demand. -/
def operation : Demand → String
  | .add => "add"
  | .remove => "remove"
  | .clear => "clear"
  | .change c _ _ => c.name

/-- What is noted of a demand before it is met: the gate, and the thing if there is one. -/
def notes : Demand → List (String × Value)
  | .change _ gate thing =>
    ("gate_name", .text gate.key) :: if thing.isNull then [] else [("thing", thing)]
  | _ => []

end Demand

namespace FlagSet

/-- Notes a demand and meets it. -/
def meetBody (flags : FlagSet) (feature : String) (demand : Demand) : Observed Bool := do
  Observed.noteAll demand.notes
  Observed.ofRun (flags.meet feature demand)

/-- Meets a demand under observation. -/
def meetObserved (flags : FlagSet) (feature : String) (demand : Demand) : Run Bool :=
  flags.observe feature demand.operation (flags.meetBody feature demand)

variable {flags : FlagSet} {feature : String}

theorem change_eq (flags : FlagSet) (feature : String) (c : Change) (thing : Value) :
    flags.change feature c thing =
      Run.ofExcept (c.demand flags.registry thing) >>= flags.meetObserved feature := by
  unfold change Change.demand
  simp only [Run.ofExcept_bind, bind_assoc]
  refine bind_congr fun gate => bind_congr fun wrapped => ?_
  rfl

theorem changeWrapped_eq (flags : FlagSet) (feature : String) (c : Change)
    (wrapped : Except Failure Wrapped) :
    flags.changeWrapped feature c wrapped =
      Run.ofExcept (c.demandWrapped flags.registry wrapped) >>= flags.meetObserved feature := by
  unfold changeWrapped Change.demandWrapped
  simp only [Run.ofExcept_bind, bind_assoc, change_eq]

/-- An action that demands something is refused, or the demand is met under observation. -/
theorem run_demand {action : Action} {demand : Except Failure Demand}
    (h : action.demand? flags.registry = some demand) :
    action.run flags feature =
      Answer.truth <$> (Run.ofExcept demand >>= flags.meetObserved feature) := by
  have truth {run : Run Bool} (same : run = Run.ofExcept demand >>= flags.meetObserved feature) :
      Answer.truth <$> run =
        Answer.truth <$> (Run.ofExcept demand >>= flags.meetObserved feature) :=
    congrArg (Answer.truth <$> ·) same
  cases action with
  | add =>
    cases h
    rfl
  | remove =>
    cases h
    rfl
  | clear =>
    cases h
    rfl
  | change c thing =>
    cases h
    exact truth (change_eq flags feature c thing)
  | changeActor c actor =>
    cases h
    exact truth (changeWrapped_eq flags feature c _)
  | changeGroup c group =>
    cases h
    exact truth (changeWrapped_eq flags feature c _)
  | enablePercentageOfActors p =>
    cases h
    exact truth (changeWrapped_eq flags feature .enable _)
  | enablePercentageOfTime p =>
    cases h
    exact truth (changeWrapped_eq flags feature .enable _)
  | enableExpression e =>
    cases h
    exact truth (changeWrapped_eq flags feature .enable _)
  | disablePercentageOfActors =>
    cases h
    exact truth (changeWrapped_eq flags feature .disable _)
  | disablePercentageOfTime =>
    cases h
    exact truth (changeWrapped_eq flags feature .disable _)
  | disableExpression =>
    cases h
    rfl
  | _ => cases h

end FlagSet

/-- Nothing is noted of a demand, or the gate, or the gate and the thing. -/
theorem Demand.notes_cases (demand : Demand) :
    demand.notes = [] ∨ (∃ gate, demand.notes = [("gate_name", gate)]) ∨
      ∃ gate thing, demand.notes = [("gate_name", gate), ("thing", thing)] := by
  cases demand with
  | change c gate thing =>
    unfold notes
    dsimp only
    cases thing.isNull with
    | true => exact .inr (.inl ⟨_, rfl⟩)
    | false => exact .inr (.inr ⟨_, _, rfl⟩)
  | _ => exact .inl rfl

theorem Demand.ne_of_mem_notes (demand : Demand) {name : String} (gate : name ≠ "gate_name")
    (thing : name ≠ "thing") : ∀ row ∈ demand.notes, name ≠ row.1 := by
  rcases demand.notes_cases with none | ⟨_, lone⟩ | ⟨_, _, both⟩
  · rw [none]
    exact fun _ mem => absurd mem List.not_mem_nil
  · rw [lone]
    exact List.forall_mem_singleton.2 gate
  · rw [both]
    exact List.forall_mem_cons.2 ⟨gate, List.forall_mem_singleton.2 thing⟩

/-- What is noted of a demand stays in the payload. -/
theorem Demand.find?_notes (demand : Demand) (payload : Payload) : ∀ row ∈ demand.notes,
    (demand.notes.foldl (fun payload row => payload.put row.1 row.2) payload).find? row.1 =
      some row.2 := by
  intro row mem
  rw [Table.find?_foldl_put]
  rcases demand.notes_cases with none | ⟨_, lone⟩ | ⟨_, _, both⟩
  · rw [none] at mem
    cases mem
  · rw [lone] at mem ⊢
    rw [List.mem_singleton.1 mem]
    rfl
  · rw [both] at mem ⊢
    rcases List.mem_cons.1 mem with rfl | mem
    · rfl
    · rw [List.mem_singleton.1 mem]
      rfl

namespace FlagSet

theorem Watches.meetObserved {watched quiet : FlagSet} (h : watched.Watches quiet)
    (feature : String) (demand : Demand) :
    Tells (watched.meetObserved feature demand) (quiet.meetObserved feature demand) fun w =>
      (quiet.adapter.writeCalls feature demand.writes w).map (·.event quiet.adapter.name) ++
        [Event.own feature demand.operation (quiet.meetBody feature demand) w] := by
  have body := (Observed.noteAll_tells demand.notes).bind fun _ =>
    Observed.ofRun_tells (h.meet feature demand)
  refine (h.observe feature demand.operation body).mono fun w => ?_
  rw [sequel, Observed.noteAll_apply]
  rfl

end FlagSet

/-! ## Questions -/

/-- The actor that a thing is; null is none. -/
def Subject.ofThing? (thing : Value) : Except Failure (Option Subject) :=
  if thing.isNull then .ok none else (Subject.ofThing thing).map some

namespace Gate

/-- The gates are asked one after the other and all found closed. -/
inductive AllClosed (environment : Environment) (context : CheckContext) :
    List Gate → Surroundings → Surroundings → Prop
  | nil (s : Surroundings) : AllClosed environment context [] s s
  | cons {gate : Gate} {rest : List Gate} {s s' s'' : Surroundings}
      (closed : gate.isOpen environment context s = .ok false s')
      (others : AllClosed environment context rest s' s'') :
      AllClosed environment context (gate :: rest) s s''

/-- Of the gates in order it is the first to be found open. -/
def IsFirstOpen (environment : Environment) (context : CheckContext) (s : Surroundings)
    (gate : Gate) : Prop :=
  ∃ before after s' s'', order = before ++ gate :: after ∧
    AllClosed environment context before s s' ∧
    gate.isOpen environment context s' = .ok true s''

theorem firstOpenOf_eq_some {environment : Environment} {context : CheckContext}
    {gates : List Gate} {gate : Gate} {s t : Surroundings}
    (h : firstOpenOf environment context gates s = .ok (some gate) t) :
    ∃ before after s', gates = before ++ gate :: after ∧
      AllClosed environment context before s s' ∧
      gate.isOpen environment context s' = .ok true t := by
  induction gates generalizing s with
  | nil => cases h
  | cons first rest ih =>
    rw [firstOpenOf, bind_apply] at h
    cases asked : first.isOpen environment context s with
    | error failure s' =>
      rw [asked] at h
      cases h
    | ok isOpen s' =>
      rw [asked] at h
      cases isOpen with
      | true =>
        cases h
        exact ⟨[], rest, s, rfl, .nil s, asked⟩
      | false =>
        obtain ⟨before, after, s'', same, closed, opened⟩ := ih h
        exact ⟨first :: before, after, s'', congrArg (first :: ·) same, .cons asked closed, opened⟩

end Gate

namespace FlagSet

/-- Asked in a world for a thing, the gate is the first of a feature that is open, by the values
that are read of the feature there. -/
def Opens (flags : FlagSet) (feature : String) (thing : Value) (w : World) (gate : Gate) : Prop :=
  ∃ raw values subject w', flags.adapter.read (.get feature) w = .ok raw w' ∧
    GateValues.ofEntries raw = .ok values ∧ Subject.ofThing? thing = .ok subject ∧
    Gate.IsFirstOpen ⟨flags.registry, flags.meaning, w'.groups⟩ ⟨feature, values, subject⟩
      w'.surroundings gate

variable {flags watched quiet : FlagSet}

/-- Asking whether a feature exists, without the watcher. -/
def existBody (flags : FlagSet) (feature : String) : Observed Bool := do
  return (← Observed.ofRun (flags.adapter.read .features)).contains feature

/-- Asking whether a feature is enabled, without the watcher. -/
def isEnabledBody (flags : FlagSet) (feature : String) (thing : Value) : Observed Bool := do
  let values ← Observed.ofRun (flags.gateValues feature)
  let subject ← subjectOf thing
  let environment ← Observed.ofRun flags.environment
  let check := Gate.firstOpen environment ⟨feature, values, subject⟩
  match ← Observed.ofRun (Run.ofCheck check) with
  | some gate =>
    Observed.note "gate_name" (.text gate.key)
    return true
  | none => return false

theorem Watches.exist (h : watched.Watches quiet) (feature : String) :
    Tells (watched.exist feature) (quiet.exist feature) fun w =>
      [(quiet.adapter.readCall .features w).event quiet.adapter.name] ++
        [Event.own feature "exist?" (quiet.existBody feature) w] :=
  h.observe feature "exist?" ((Observed.ofRun_tells (h.read .features)).bind_uneventful fun _ =>
    Tells.pure _)

/-- A thing is noted, if it is one, before it is taken for an actor. -/
theorem subjectOf_apply (thing : Value) (payload : Payload) (w : World) :
    ∃ asked : Payload, (asked = payload ∨ asked = payload.put "thing" thing) ∧
      subjectOf thing (payload, w) = match Subject.ofThing? thing with
        | .ok subject => .ok subject (asked, w)
        | .error failure => .error failure (asked, w) := by
  unfold subjectOf Subject.ofThing?
  cases thing.isNull with
  | true => exact ⟨payload, .inl rfl, rfl⟩
  | false =>
    refine ⟨payload.put "thing" thing, .inr rfl, ?_⟩
    cases Subject.ofThing thing <;> rfl

theorem uneventful_subjectOf (thing : Value) : Uneventful (subjectOf thing) := by
  unfold subjectOf
  cases thing.isNull with
  | true => exact Tells.pure none
  | false =>
    refine (Observed.note_tells "thing" thing).bind_uneventful fun _ => ?_
    refine (Observed.ofRun_tells (Run.uneventful_ofExcept _)).bind_uneventful fun _ => ?_
    exact Tells.pure _

theorem Watches.isEnabledBody (h : watched.Watches quiet) (feature : String) (thing : Value) :
    Tells (watched.isEnabledBody feature thing) (quiet.isEnabledBody feature thing) fun s =>
      quiet.asking feature s.2 := by
  refine (Observed.ofRun_tells (h.gateValues feature)).bind_uneventful fun values => ?_
  refine (uneventful_subjectOf thing).bind_uneventful fun subject => ?_
  refine (Observed.ofRun_tells h.environment).bind_uneventful fun environment => ?_
  refine (Observed.ofRun_tells (Run.uneventful_ofCheck _)).bind_uneventful fun gate => ?_
  cases gate with
  | some gate => exact (Observed.note_tells _ _).bind_uneventful fun _ => Tells.pure true
  | none => exact Tells.pure false

/-- Typed values are those of what was read. -/
theorem gateValues_eq_ok {values : GateValues} {w w' : World}
    (h : flags.gateValues feature w = .ok values w') :
    ∃ raw, flags.adapter.read (.get feature) w = .ok raw w' ∧
      GateValues.ofEntries raw = .ok values := by
  unfold gateValues at h
  rw [bind_apply] at h
  cases read : flags.adapter.read (.get feature) w with
  | error failure w₁ =>
    rw [read] at h
    cases h
  | ok raw w₁ =>
    rw [read] at h
    cases typed : GateValues.ofEntries raw with
    | error failure =>
      dsimp only at h
      rw [typed] at h
      cases h
    | ok values' =>
      dsimp only at h
      rw [typed] at h
      cases h
      exact ⟨raw, rfl, typed⟩

/-- A feature is enabled if a gate is found open, which is then noted; it is the first one. -/
theorem isEnabledBody_ends (flags : FlagSet) (feature : String) (thing : Value) (payload : Payload)
    (w : World) :
    ∃ asked : Payload, (asked = payload ∨ asked = payload.put "thing" thing) ∧
      ((∃ gate w', flags.isEnabledBody feature thing (payload, w) =
          .ok true (asked.put "gate_name" (.text gate.key), w') ∧
          flags.Opens feature thing w gate) ∨
        (∃ w', flags.isEnabledBody feature thing (payload, w) = .ok false (asked, w')) ∨
        ∃ failure w', flags.isEnabledBody feature thing (payload, w) =
          .error failure (asked, w')) := by
  unfold isEnabledBody
  rw [Observed.ofRun_bind_apply]
  cases read : flags.gateValues feature w with
  | error failure w₁ => exact ⟨payload, .inl rfl, .inr (.inr ⟨failure, w₁, rfl⟩)⟩
  | ok values w₁ =>
    obtain ⟨raw, got, typed⟩ := gateValues_eq_ok read
    obtain ⟨asked, noted, taken⟩ := subjectOf_apply thing payload w₁
    refine ⟨asked, noted, ?_⟩
    dsimp only
    rw [bind_apply, taken]
    cases known : Subject.ofThing? thing with
    | error failure => exact .inr (.inr ⟨failure, w₁, rfl⟩)
    | ok subject =>
      have here : flags.environment w₁ = .ok ⟨flags.registry, flags.meaning, w₁.groups⟩ w₁ := rfl
      dsimp only
      rw [Observed.ofRun_bind_apply, here]
      dsimp only
      rw [Observed.ofRun_bind_apply]
      unfold Run.ofCheck EStateM.run
      cases found : Gate.firstOpen ⟨flags.registry, flags.meaning, w₁.groups⟩
          ⟨feature, values, subject⟩ w₁.surroundings with
      | error failure s => exact .inr (.inr ⟨failure, _, rfl⟩)
      | ok gate? s =>
        cases gate? with
        | none => exact .inr (.inl ⟨_, rfl⟩)
        | some gate =>
          obtain ⟨before, after, s', order, closed, opened⟩ := Gate.firstOpenOf_eq_some found
          exact .inl ⟨gate, _, rfl, raw, values, subject, w₁, got, typed, known, before, after, s',
            s, order, closed, opened⟩

theorem Watches.isEnabled (h : watched.Watches quiet) (feature : String) (thing : Value) :
    Tells (watched.isEnabled feature thing) (quiet.isEnabled feature thing) fun w =>
      quiet.asking feature w ++
        [Event.own feature "enabled?" (quiet.isEnabledBody feature thing) w] :=
  h.observe feature "enabled?" (h.isEnabledBody feature thing)

theorem notes_isEnabledBody (flags : FlagSet) (feature : String) (thing : Value) {name : String}
    (named : name ≠ "gate_name" ∧ name ≠ "thing") (noted? : Option Value) :
    Keeps (Observed.Notes name noted?) (flags.isEnabledBody feature thing) := by
  rintro ⟨payload, w⟩ start
  obtain ⟨asked, noted, ends⟩ := flags.isEnabledBody_ends feature thing payload w
  have kept : asked.find? name = noted? := by
    rcases noted with rfl | rfl
    · exact start
    · rw [Table.find?_put, if_neg named.2]
      exact start
  rcases ends with ⟨gate, w', ran, -⟩ | ⟨w', ran⟩ | ⟨failure, w', ran⟩
  · rw [ran]
    show (asked.put "gate_name" _).find? name = noted?
    rw [Table.find?_put, if_neg named.1]
    exact kept
  · rw [ran]
    exact kept
  · rw [ran]
    exact kept

end FlagSet

end FeatureGates
