import FeatureGates.Proofs.Keeping
import FeatureGates.Proofs.Observing
import FeatureGates.Proofs.Respecting
import FeatureGates.Proofs.Signs
import FeatureGates.Proofs.StoredTrees

/-!
# What the state of a feature promises

The state of a feature is read off the stored values, and whether it is
enabled is found by asking its gates. The two are written apart from each
other, and agree: a gate that is open has a stored value that opens it for
someone (`Gate.opens_of_isOpen`), so of a feature that is off no gate is
open; and of one that is on a gate is open whoever asks
(`Gate.firstOpen_of_on`).

Draws have to be fair: at least zero and below one. A check that does not
fail on fair draws *answers* (`Check.Answers`). The gates answer if the
predicates of groups do, if the percentage of time is not too large for a
floating-point number, and if there are buckets for whoever asks
(`CheckContext.Hashable`): the gate of a percentage of actors takes one at
every percentage, and of a feature whose name has surrogates there are none.
Whatever fails in an expression, only closes its gate.
-/

namespace FeatureGates

variable {α β : Type}

/-! ## Fair draws -/

/-- All draws are at least zero and below one. -/
def Surroundings.Fair (s : Surroundings) : Prop :=
  ∀ position, Number.le (.int 0) (s.stream position) = true ∧
    (s.stream position).lt (.int 1) = true

/-- The surroundings themselves, if draws are fair in them. A check that respects this relation
leaves fair draws, also where it fails. -/
def Surroundings.Fairly (s t : Surroundings) : Prop := s = t ∧ s.Fair

theorem Surroundings.kept_fairly : Check.Kept Fairly where
  draw := by
    rintro s t ⟨rfl, fair⟩
    exact ⟨rfl, rfl, fair⟩
  now := by
    rintro s t ⟨rfl, fair⟩
    exact ⟨rfl, rfl, fair⟩
  logLine := by
    rintro line s t ⟨rfl, fair⟩
    exact ⟨rfl, rfl, fair⟩

/-- The surroundings themselves, if something is so of them. -/
def Surroundings.Having (P : Surroundings → Prop) (s t : Surroundings) : Prop := s = t ∧ P s

namespace Check

/-- From fair draws the check does not fail, and fair draws are left. -/
def Answers (check : Check α) : Prop := ∀ s, s.Fair → ∃ a s', check s = .ok a s' ∧ s'.Fair

section

variable {P : Surroundings → Prop}

theorem Respects.keeps {check : Check α} (h : Respects (Surroundings.Having P) check) :
    Keeps P check := by
  intro s so
  rcases (h s s ⟨rfl, so⟩).elim with ⟨a, s', _, _, ran, _, _, _, so⟩ |
    ⟨failure, s', _, ran, _, _, so⟩
  · rw [ran]
    exact so
  · rw [ran]
    exact so

theorem succeeds_ofExcept {result : Except Failure α} (h : ∃ a, result = .ok a) :
    Succeeds P (Check.ofExcept result) := by
  obtain ⟨a, rfl⟩ := h
  exact .pure a

theorem succeeds_draw (kept : Kept (Surroundings.Having P)) : Succeeds P Check.draw :=
  fun s so => ⟨_, _, rfl, (kept.draw s s ⟨rfl, so⟩).2.2⟩

theorem succeeds_warn (kept : Kept (Surroundings.Having P)) (message : String)
    (fields : List (String × LogField)) : Succeeds P (Check.warn message fields) :=
  fun s so => ⟨_, _, rfl, (kept.logLine _ s s ⟨rfl, so⟩).2.2⟩

end

end Check

/-- The predicates of registered groups answer. -/
def Groups.Answer (groups : Groups) : Prop :=
  ∀ name predicate, (groups.find? name).bind (·.predicate) = some predicate →
    ∀ thing, Check.Answers (predicate thing)

/-- Added operators leave fair draws, of arguments that do, and groups answer. -/
structure Environment.Fair (environment : Environment) : Prop where
  meaning : environment.meaning.Respects Surroundings.Fairly
  groups : environment.groups.Answer

/-- There is no one to look up in a rollout, or the name of the feature has no surrogates. -/
def CheckContext.Hashable (context : CheckContext) : Prop :=
  context.subject = none ∨ context.feature.isText = true

theorem CheckContext.hashable_ofText (feature : String) (values : GateValues)
    (subject : Option Subject) : Hashable ⟨feature, values, subject⟩ :=
  .inr (CodePoints.isText_ofText feature)

/-! ## Gates that are open -/

theorem Number.exists_toBinary64 {n : Number} (h : n.fits = true) :
    ∃ x, n.toBinary64 = .ok x := by
  unfold fits at h
  cases near : n.toBinary64 with
  | ok x => exact ⟨x, rfl⟩
  | error failure => rw [near] at h; cases h

namespace Rollout

/-- Under a name without surrogates it is told of everyone whether they are in. -/
theorem exists_includes {feature : CodePoints} (named : feature.isText = true) (actor : String)
    (percentage : Number) : ∃ b, includes feature actor percentage = .ok b := by
  obtain ⟨covered, made⟩ := percentage.exists_mul_thousand
  have made : percentage.mul (.int bucketsPerPercent) = .ok covered := made
  rw [includes, bucket_of_isText named, made]
  exact ⟨_, rfl⟩

/-- Only percentages above zero include anyone. -/
theorem pos_of_includes {feature actor : CodePoints} {percentage : Number}
    (h : includes feature actor percentage = .ok true) : Number.lt (.int 0) percentage = true := by
  obtain ⟨own, -, h⟩ := exists_of_bind_eq_ok h
  obtain ⟨covered, made, h⟩ := exists_of_bind_eq_ok h
  have below : Number.lt (.int own) covered = true := Except.ok.inj h
  exact Number.pos_of_mul made (Number.lt_of_le_of_lt (Number.le_natCast _) below)

end Rollout

namespace Gate

variable {environment : Environment} {context : CheckContext} {s s' : Surroundings}

/-- Without entries there is nothing to build, so an expression that opens its gate has some. -/
theorem exists_of_expressionIsOpen (h : expressionIsOpen environment context s = .ok true s') :
    ∃ stored, context.values.expression = some stored ∧ stored ≠ [] := by
  unfold expressionIsOpen at h
  cases held : context.values.expression with
  | none =>
    rw [held] at h
    cases h
  | some stored =>
    rw [held] at h
    refine ⟨stored, rfl, ?_⟩
    rintro rfl
    cases built : Node.build environment.registry (.record []) with
    | ok tree =>
      rcases Node.build_eq_ok built with ⟨_, none, _⟩ | none | ⟨_, _, none⟩ <;> cases none
    | error failure =>
      simp only [evaluateStored, built] at h
      cases h

/-- A set with a member is present. -/
theorem isPresent_setOfNames {names : NameSet} (h : names.names ≠ []) :
    (GateValues.setOfNames names).isPresent = true := by
  cases members : names.names with
  | nil => exact absurd members h
  | cons name rest =>
    show (!(names.names.map Value.text).isEmpty) = true
    rw [members]
    rfl

theorem names_of_actorIsOpen (h : actorIsOpen context = true) :
    context.values.actors.names ≠ [] := by
  unfold actorIsOpen at h
  split at h
  · rename_i subject _
    obtain ⟨-, mem⟩ := Bool.and_eq_true_iff.1 h
    have mem : subject.id ∈ context.values.actors.names := NameSet.contains_iff.1 mem
    exact List.ne_nil_of_mem mem
  · cases h

theorem names_of_groupIsOpen {groups : Groups} (h : groupIsOpen groups context s = .ok true s') :
    context.values.groups.names ≠ [] := by
  intro none
  unfold groupIsOpen at h
  rw [none] at h
  cases subject : context.subject <;> rw [subject] at h <;> cases h

theorem percentageOfTimeIsOpen_apply {share : Binary64}
    (h : context.values.percentageOfTime.divNat 100 = .ok share) :
    percentageOfTimeIsOpen context s =
      .ok ((s.stream s.drawn).lt (.float share)) { s with drawn := s.drawn + 1 } := by
  simp only [percentageOfTimeIsOpen, h]
  rfl

/-- A fair draw is below a share only if the share is above zero. -/
theorem pos_of_percentageOfTimeIsOpen (fair : s.Fair)
    (h : percentageOfTimeIsOpen context s = .ok true s') :
    Number.lt (.int 0) context.values.percentageOfTime = true := by
  cases share : context.values.percentageOfTime.divNat 100 with
  | error failure =>
    simp only [percentageOfTimeIsOpen, share] at h
    cases h
  | ok x =>
    rw [percentageOfTimeIsOpen_apply share] at h
    have below : (s.stream s.drawn).lt (.float x) = true := by injection h
    have positive := Number.lt_of_le_of_lt (fair s.drawn).1 below
    exact Number.pos_of_divNat (by decide) share (Binary64.pos_iff.1 positive)

/-- Whatever stands behind a check, a gate that is open has a value that opens it for someone. -/
theorem opens_of_isOpen {gate : Gate} (fair : s.Fair)
    (h : gate.isOpen environment context s = .ok true s') : context.values.opens gate = true := by
  cases gate with
  | boolean =>
    have h : context.values.boolean = true := by injection h
    exact h
  | expression =>
    obtain ⟨stored, held, some_entry⟩ := exists_of_expressionIsOpen h
    show isEnabled .expression (context.values.get .expression) = true
    unfold GateValues.get
    rw [held]
    cases stored with
    | nil => exact absurd rfl some_entry
    | cons entry rest => rfl
  | actor =>
    have h : actorIsOpen context = true := by injection h
    exact isPresent_setOfNames (names_of_actorIsOpen h)
  | group => exact isPresent_setOfNames (names_of_groupIsOpen h)
  | percentageOfActors =>
    have h : percentageOfActorsIsOpen context s = .ok true s' := h
    unfold percentageOfActorsIsOpen at h
    cases asked : context.subject with
    | none => rw [asked] at h; cases h
    | some subject =>
      rw [asked] at h
      cases decided : Rollout.includes context.feature subject.id
          context.values.percentageOfActors with
      | error failure => simp only [decided] at h; cases h
      | ok b =>
        simp only [decided] at h
        obtain rfl : b = true := by injection h
        exact Rollout.pos_of_includes decided
  | percentageOfTime => exact pos_of_percentageOfTimeIsOpen fair h

/-! ## Gates that answer -/

section

variable {P : Surroundings → Prop}

theorem succeeds_expressionIsOpen (kept : Check.Kept (Surroundings.Having P))
    (hm : environment.meaning.Respects (Surroundings.Having P)) (context : CheckContext) :
    Succeeds P (expressionIsOpen environment context) := by
  unfold expressionIsOpen
  split
  · exact .pure _
  · refine .tryCatch (Check.Respects.keeps ?_) fun failure =>
      (Check.succeeds_warn kept _ _).bind fun _ => .pure _
    refine (Check.Respects.ofExcept _).bind fun tree => ?_
    exact (tree.respects_evaluate kept hm _).bind fun _ => .ofExcept _

theorem succeeds_groupIsOpen {groups : Groups}
    (hg : ∀ name predicate, (groups.find? name).bind (·.predicate) = some predicate →
      ∀ thing, Succeeds P (predicate thing)) (context : CheckContext) :
    Succeeds P (groupIsOpen groups context) := by
  have any (thing : Value) (names : List String) :
      Succeeds P (anyGroupMatches groups thing names) := by
    induction names with
    | nil => exact .pure _
    | cons name rest ih =>
      unfold anyGroupMatches
      split
      · rename_i predicate found
        exact (hg name predicate found thing).bind fun _ => .ite (.pure _) ih
      · exact ih
  unfold groupIsOpen
  split
  · exact any _ _
  · exact .pure _

theorem succeeds_percentageOfActorsIsOpen (hashable : context.Hashable) :
    Succeeds P (percentageOfActorsIsOpen context) := by
  unfold percentageOfActorsIsOpen
  split
  · rename_i subject asked
    have named := hashable.resolve_left (asked ▸ Option.some_ne_none subject)
    exact Check.succeeds_ofExcept (Rollout.exists_includes named _ _)
  · exact .pure _

theorem succeeds_percentageOfTimeIsOpen (kept : Check.Kept (Surroundings.Having P))
    (fits : context.values.percentageOfTime.fits = true) :
    Succeeds P (percentageOfTimeIsOpen context) := by
  obtain ⟨x, near⟩ := Number.exists_toBinary64 fits
  exact (Check.succeeds_draw kept).bind fun _ =>
    (Check.succeeds_ofExcept (Number.exists_divNat (by decide) near)).bind fun _ => .pure _

/-- No gate fails if no group does, and if whoever is looked up in a rollout has a bucket. -/
theorem succeeds_isOpen (kept : Check.Kept (Surroundings.Having P))
    (hm : environment.meaning.Respects (Surroundings.Having P))
    (hg : ∀ name predicate, (environment.groups.find? name).bind (·.predicate) = some predicate →
      ∀ thing, Succeeds P (predicate thing))
    (fits : context.values.percentageOfTime.fits = true) {gate : Gate}
    (hashable : gate = .percentageOfActors → context.Hashable) :
    Succeeds P (gate.isOpen environment context) := by
  cases gate with
  | boolean => exact .pure _
  | expression => exact succeeds_expressionIsOpen kept hm context
  | actor => exact .pure _
  | group => exact succeeds_groupIsOpen hg context
  | percentageOfActors => exact succeeds_percentageOfActorsIsOpen (hashable rfl)
  | percentageOfTime => exact succeeds_percentageOfTimeIsOpen kept fits

end

/-- From fair draws no gate fails. -/
theorem answers_isOpen (h : environment.Fair)
    (fits : context.values.percentageOfTime.fits = true) {gate : Gate}
    (hashable : gate = .percentageOfActors → context.Hashable) :
    (gate.isOpen environment context).Answers :=
  succeeds_isOpen Surroundings.kept_fairly h.meaning h.groups fits hashable

/-! ## The first open gate -/

section

variable {gates : List Gate}
  (answers : ∀ gate ∈ gates, (gate.isOpen environment context).Answers)

include answers

/-- Among gates one of which is always open one is found. -/
theorem firstOpenOf_of_open {gate : Gate} (mem : gate ∈ gates)
    (always : ∀ s, s.Fair → ∃ s', gate.isOpen environment context s = .ok true s')
    (s : Surroundings) (fair : s.Fair) :
    ∃ found s', firstOpenOf environment context gates s = .ok (some found) s' := by
  induction gates generalizing s with
  | nil => cases mem
  | cons first rest ih =>
    rw [firstOpenOf, bind_apply]
    obtain ⟨own, others⟩ := List.forall_mem_cons.1 answers
    obtain ⟨isOpen, s', ran, fair'⟩ := own s fair
    rw [ran]
    cases isOpen with
    | true => exact ⟨first, s', rfl⟩
    | false =>
      refine ih others ((List.mem_cons.1 mem).resolve_left ?_) s' fair'
      rintro rfl
      obtain ⟨s'', opened⟩ := always s fair
      rw [opened] at ran
      cases ran

/-- Among gates whose values open them for no one none is found. -/
theorem firstOpenOf_of_closed (closed : ∀ gate ∈ gates, context.values.opens gate = false)
    (s : Surroundings) (fair : s.Fair) :
    ∃ s', firstOpenOf environment context gates s = .ok none s' := by
  induction gates generalizing s with
  | nil => exact ⟨s, rfl⟩
  | cons first rest ih =>
    rw [firstOpenOf, bind_apply]
    obtain ⟨own, others⟩ := List.forall_mem_cons.1 answers
    obtain ⟨isOpen, s', ran, fair'⟩ := own s fair
    rw [ran]
    cases isOpen with
    | true =>
      have shut := closed first List.mem_cons_self
      rw [opens_of_isOpen fair ran] at shut
      cases shut
    | false =>
      exact ih others (fun gate mem => closed gate (List.mem_cons_of_mem first mem)) s' fair'

end

/-- After gates that are closed the next are asked. -/
theorem firstOpenOf_append {before : List Gate} (after : List Gate)
    (closed : firstOpenOf environment context before s = .ok none s') :
    firstOpenOf environment context (before ++ after) s =
      firstOpenOf environment context after s' := by
  induction before generalizing s with
  | nil =>
    cases closed
    rfl
  | cons gate rest ih =>
    rw [firstOpenOf, bind_apply] at closed
    rw [List.cons_append, firstOpenOf, bind_apply]
    cases ran : gate.isOpen environment context s with
    | error failure t =>
      rw [ran] at closed
      cases closed
    | ok isOpen t =>
      rw [ran] at closed
      cases isOpen with
      | true => cases closed
      | false => exact ih closed

/-- A percentage of time of a hundred lets every fair draw through. -/
theorem percentageOfTimeIsOpen_of_hundred
    (hundred : context.values.percentageOfTime.eq (.int 100) = true) (fair : s.Fair) :
    ∃ s', percentageOfTimeIsOpen context s = .ok true s' := by
  have share : context.values.percentageOfTime.divNat 100 = .ok (.finite false .one) :=
    Number.divNat_of_eq (by decide) hundred
  have one : (Number.int 1).position? = (Number.float (.finite false .one)).position? :=
    Number.position?_one
  have below := (fair s.drawn).2
  rw [Number.lt_congr one] at below
  rw [percentageOfTimeIsOpen_apply share, below]
  exact ⟨_, rfl⟩

end Gate

/-! ## States -/

namespace GateValues

variable {values : GateValues}

theorem of_on (h : values.state = .on) :
    values.boolean = true ∨ values.percentageOfTime.eq (.int 100) = true := by
  unfold state at h
  split at h
  · rename_i on
    exact Bool.or_eq_true_iff.1 on
  · split at h <;> cases h

/-- Values that make a feature off open no gate for anyone. -/
theorem of_off (h : values.state = .off) (gate : Gate) : values.opens gate = false := by
  unfold state at h
  split at h
  · cases h
  · rename_i notOn
    split at h
    · cases h
    · rename_i none
      by_cases same : gate = .boolean
      · obtain ⟨boolean, -⟩ := not_or.1 (notOn ∘ Bool.or_eq_true_iff.2)
        rw [same]
        exact Bool.eq_false_iff.2 boolean
      · rw [Bool.eq_false_iff]
        intro opens
        refine none (List.any_eq_true.2 ⟨gate, gate.mem_order, ?_⟩)
        rw [opens, decide_eq_true same]
        rfl

end GateValues

namespace Gate

variable {environment : Environment} {s : Surroundings}

/-- Of a feature that is on a gate is open, whoever asks. -/
theorem firstOpen_of_on {context : CheckContext} (hashable : context.Hashable)
    (h : environment.Fair) (fits : context.values.percentageOfTime.fits = true) (fair : s.Fair)
    (on : context.values.state = .on) :
    ∃ gate s', firstOpen environment context s = .ok (some gate) s' := by
  have answers (gate : Gate) (_ : gate ∈ order) : (gate.isOpen environment context).Answers :=
    answers_isOpen h fits fun _ => hashable
  rcases GateValues.of_on on with boolean | hundred
  · refine firstOpenOf_of_open answers (mem_order .boolean) (fun s _ => ⟨s, ?_⟩) s fair
    show EStateM.Result.ok context.values.boolean s = _
    rw [boolean]
  · exact firstOpenOf_of_open answers (mem_order .percentageOfTime)
      (fun s fair => percentageOfTimeIsOpen_of_hundred hundred fair) s fair

/-- Of a feature that is off no gate is open, whoever asks. -/
theorem firstOpen_of_off {context : CheckContext} (hashable : context.Hashable)
    (h : environment.Fair) (fits : context.values.percentageOfTime.fits = true) (fair : s.Fair)
    (off : context.values.state = .off) : ∃ s', firstOpen environment context s = .ok none s' :=
  firstOpenOf_of_closed (fun _ _ => answers_isOpen h fits fun _ => hashable)
    (fun gate _ => GateValues.of_off off gate) s fair

/-- Nor is anyone told so under a name with surrogates: the gates before the rollout are closed,
and there the check fails. -/
theorem firstOpen_of_off_surrogates (context : CheckContext) {subject : Subject}
    (asked : context.subject = some subject) (named : context.feature.isText = false)
    (h : environment.Fair) (fits : context.values.percentageOfTime.fits = true) (fair : s.Fair)
    (off : context.values.state = .off) :
    ∃ s', firstOpen environment context s =
      .error (context.feature ++ CodePoints.ofText subject.id).unencodable s' := by
  have answers : ∀ gate ∈ order.take 4, (gate.isOpen environment context).Answers := by
    refine fun gate mem => answers_isOpen h fits fun rollout => absurd mem ?_
    rw [rollout]
    decide
  obtain ⟨s', none⟩ :=
    firstOpenOf_of_closed answers (fun gate _ => GateValues.of_off off gate) s fair
  have refused : isOpen .percentageOfActors environment context s' =
      .error (context.feature ++ CodePoints.ofText subject.id).unencodable s' := by
    show percentageOfActorsIsOpen context s' = _
    unfold percentageOfActorsIsOpen
    rw [asked]
    dsimp only
    rw [Rollout.includes_of_not_isText named]
    rfl
  refine ⟨s', ?_⟩
  have rest : firstOpen environment context s =
      firstOpenOf environment context (order.drop 4) s' := firstOpenOf_append _ none
  rw [rest]
  show firstOpenOf environment context (.percentageOfActors :: _) s' = _
  rw [firstOpenOf, bind_apply, refused]

end Gate

/-! ## Flag sets -/

/-- An observed operation that ends with a value ends with it under observation too. -/
theorem Instrumenter.observe_ok (instrumenter : Instrumenter) (name : String)
    {payload : List (String × Value)} {shown : α → Value} {body : Observed α} {a : α} {w : World}
    (h : ∃ after w', body (.ofRows payload, w) = .ok a (after, w') ∧ after.Tame) :
    ∃ w', instrumenter.observe name payload shown body w = .ok a w' := by
  obtain ⟨after, w', ran, tame⟩ := h
  obtain ⟨w'', reported, -⟩ := instrumenter.report_ok name tame Option.none (shown a) w'
  refine ⟨w'', ?_⟩
  simp only [observe, instrument, ran, reported]

theorem Observed.ofRun_apply {run : Run α} {payload : Payload} {w w' : World} {a : α}
    (h : run w = .ok a w') : Observed.ofRun run (payload, w) = .ok a (payload, w') := by
  unfold ofRun
  dsimp only
  rw [h]

theorem Run.ofCheck_apply {check : Check α} {w : World} {a : α} {s : Surroundings}
    (h : check w.surroundings = .ok a s) :
    Run.ofCheck check w = .ok a { w with surroundings := s } := by
  unfold ofCheck EStateM.run
  rw [h]

namespace FlagSet

variable {flags : FlagSet} {feature : String} {thing : Value}

/-- No one, or an actor, is taken for what it is. -/
theorem exists_subjectOf
    (h : thing.isNull = true ∨ ∃ subject, Subject.ofThing thing = .ok subject) :
    ∃ subject, ∀ payload : Payload, payload.Tame → ∃ after : Payload, after.Tame ∧
      ∀ w, subjectOf thing (payload, w) = .ok subject (after, w) := by
  cases isNull : thing.isNull with
  | true =>
    refine ⟨none, fun payload tame => ⟨payload, tame, fun w => ?_⟩⟩
    rw [subjectOf, isNull]
    rfl
  | false =>
    obtain ⟨subject, known⟩ := h.resolve_left (by rw [isNull]; exact Bool.false_ne_true)
    refine ⟨some subject, fun payload tame =>
      ⟨payload.put "thing" thing, tame.put (by decide) thing, fun w => ?_⟩⟩
    rw [subjectOf, isNull, known]
    rfl

/-- A feature is enabled for a thing just if some gate is found open. -/
theorem exists_isEnabled {values : GateValues} {w w' : World}
    (read : flags.gateValues feature w = .ok values w')
    (asked : thing.isNull = true ∨ ∃ subject, Subject.ofThing thing = .ok subject)
    {P : Bool → Prop}
    (answered : ∀ subject, ∃ gate s',
      Gate.firstOpen ⟨flags.registry, flags.meaning, w'.groups⟩ ⟨feature, values, subject⟩
        w'.surroundings = .ok gate s' ∧ P gate.isSome) :
    ∃ b w'', flags.isEnabled feature thing w = .ok b w'' ∧ P b := by
  obtain ⟨subject, taken⟩ := exists_subjectOf asked
  obtain ⟨gate, s', ran, so⟩ := answered subject
  have names : TameField "feature_name" ∧ TameField "operation" := by decide
  obtain ⟨after, tame, taken⟩ := taken
    (.ofRows [("feature_name", .text feature), ("operation", .text "enabled?")])
    (.ofRows (List.forall_mem_cons.2 ⟨names.1, List.forall_mem_singleton.2 names.2⟩))
  have checked := Run.ofCheck_apply ran
  have environment : flags.environment w' =
      .ok ⟨flags.registry, flags.meaning, w'.groups⟩ w' := rfl
  obtain ⟨w'', enabled⟩ : ∃ w'', flags.isEnabled feature thing w = .ok gate.isSome w'' := by
    refine flags.instrumenter.observe_ok Event.featureOperation ?_
    simp only [bind_apply, Observed.ofRun_apply read, taken, Observed.ofRun_apply environment,
      Observed.ofRun_apply checked]
    cases gate with
    | none => exact ⟨after, _, rfl, tame⟩
    | some gate => exact ⟨after.put "gate_name" _, _, rfl, tame.put (by decide) _⟩
  exact ⟨gate.isSome, w'', enabled, so⟩

theorem isEnabled_of_firstOpen {values : GateValues} {w w' : World}
    (read : flags.gateValues feature w = .ok values w')
    (asked : thing.isNull = true ∨ ∃ subject, Subject.ofThing thing = .ok subject) {b : Bool}
    (found : ∀ subject, ∃ gate s',
      Gate.firstOpen ⟨flags.registry, flags.meaning, w'.groups⟩ ⟨feature, values, subject⟩
        w'.surroundings = .ok gate s' ∧ gate.isSome = b) :
    ∃ w'', flags.isEnabled feature thing w = .ok b w'' := by
  obtain ⟨_, w'', enabled, rfl⟩ := exists_isEnabled read asked (P := (· = b)) found
  exact ⟨w'', enabled⟩

end FlagSet

/-- A feature that is on is enabled for whoever asks, one that is off for no one, and a gate is
open only if its value opens it for someone; whatever the raw values are, if they can be typed
and the percentage of time is not too large for a floating-point number. Under a name with
surrogates this is so where no one asks; if the feature is off, whoever asks meets a failure. -/
theorem GateValues.state_agrees {raw : Entries} {values : GateValues}
    (typed : ofRaw (.record raw) = .ok values) (fits : values.percentageOfTime.fits = true) :
    (∀ (environment : Environment) (feature : CodePoints) (subject : Option Subject)
      (s : Surroundings), environment.Fair → s.Fair →
        (subject = none ∨ feature.isText = true →
          (values.state = .on → ∃ gate s',
            Gate.firstOpen environment ⟨feature, values, subject⟩ s = .ok (some gate) s') ∧
          (values.state = .off → ∃ s',
            Gate.firstOpen environment ⟨feature, values, subject⟩ s = .ok none s')) ∧
        (feature.isText = false → values.state = .off → ∀ someone, subject = some someone →
          ∃ s', Gate.firstOpen environment ⟨feature, values, subject⟩ s =
            .error (feature ++ CodePoints.ofText someone.id).unencodable s') ∧
        ∀ (gate : Gate) (s' : Surroundings),
          gate.isOpen environment ⟨feature, values, subject⟩ s = .ok true s' →
            values.opens gate = true) ∧
      ∀ (flags : FlagSet) (feature : String) (thing : Value) (w w' : World),
        flags.adapter.read (.get feature) w = .ok raw w' →
        (thing.isNull = true ∨ ∃ subject, Subject.ofThing thing = .ok subject) →
        Environment.Fair ⟨flags.registry, flags.meaning, w'.groups⟩ → w'.surroundings.Fair →
          flags.state feature w = .ok values.state w' ∧
            (values.state = .on → ∃ w'', flags.isEnabled feature thing w = .ok true w'') ∧
            (values.state = .off → ∃ w'', flags.isEnabled feature thing w = .ok false w'') := by
  constructor
  · intro environment feature subject s answering fair
    refine ⟨fun hashable => ?_, fun named off someone asked => ?_,
      fun gate s' => Gate.opens_of_isOpen fair⟩
    · have hashable : CheckContext.Hashable ⟨feature, values, subject⟩ := hashable
      exact ⟨Gate.firstOpen_of_on hashable answering fits fair,
        Gate.firstOpen_of_off hashable answering fits fair⟩
    · exact Gate.firstOpen_of_off_surrogates ⟨feature, values, subject⟩ asked named answering fits
        fair off
  intro flags feature thing w w' read asked answering fair
  have hashable := CheckContext.hashable_ofText feature values
  have typed : ofEntries raw = .ok values := typed
  have known : flags.gateValues feature w = .ok values w' := by
    simp only [FlagSet.gateValues, bind_apply, read, typed]
    rfl
  refine ⟨?_, fun on => ?_, fun off => ?_⟩
  · simp only [FlagSet.state, bind_apply, known]
    rfl
  · refine FlagSet.isEnabled_of_firstOpen known asked fun subject => ?_
    obtain ⟨gate, s', ran⟩ :=
      Gate.firstOpen_of_on (hashable subject) answering fits fair on
    exact ⟨some gate, s', ran, rfl⟩
  · refine FlagSet.isEnabled_of_firstOpen known asked fun subject => ?_
    obtain ⟨s', ran⟩ :=
      Gate.firstOpen_of_off (hashable subject) answering fits fair off
    exact ⟨none, s', ran, rfl⟩

/-- Nothing is stored of a feature whose name is one surrogate. So it is off, and yet it is not told
of an actor that none of its gates is open. -/
theorem GateValues.state_disagrees_surrogate :
    ofRaw (.record []) = .ok closed ∧ closed.state = .off ∧
      Subject.ofThing (.actor (.text "1") .emptyRecord) =
        .ok ⟨.actor (.text "1") .emptyRecord, "1"⟩ ∧
      Gate.firstOpen ⟨.standard, fun _ _ => pure (.fresh .null), .empty⟩
          ⟨⟨[.surrogate 0]⟩, closed, some ⟨.actor (.text "1") .emptyRecord, "1"⟩⟩
          ⟨fun _ => .int 0, 0, .int 0, [], []⟩ =
        .error (.notEncodable 0 [0xD800]) ⟨fun _ => .int 0, 0, .int 0, [], []⟩ :=
  ⟨rfl, by decide +kernel, rfl, rfl⟩

/-- Raw values that other clients left: a percentage of time of a hundred and one of actors that
is NaN. -/
def wholeTime : Cells :=
  (Table.empty.put "percentage_of_time" (.plain (.int 100))).put "percentage_of_actors"
    (.plain (.float .nan))

/-- A world with one feature, of such values. -/
def wholeTimeWorld : World :=
  (World.fresh ⟨fun _ => .int 0, 0, .int 0, [], []⟩).putStore "store"
    ⟨Table.empty.put "search" wholeTime, fun _ _ => none, 0⟩

/-- The feature is on, and enabled without an actor. -/
theorem GateValues.state_agrees_wholeTime :
    ∃ w' w'', (FlagSet.bare "store" "memory" .none .standard fun _ _ => pure (.fresh .null)).state
        "search" wholeTimeWorld = .ok .on w' ∧
      (FlagSet.bare "store" "memory" .none .standard fun _ _ => pure (.fresh .null)).isEnabled
        "search" .null wholeTimeWorld = .ok true w'' := by
  have typed : ofRaw (.record (Records.readCells wholeTime)) =
      .ok ⟨false, .empty, .empty, none, .float .nan, .int 100⟩ := rfl
  obtain ⟨-, agrees⟩ := state_agrees typed (by decide +kernel)
  have draws : Number.le (.int 0) (.int 0) = true ∧ (Number.int 0).lt (.int 1) = true := by
    decide +kernel
  obtain ⟨state, on, -⟩ := agrees
    (FlagSet.bare "store" "memory" .none .standard fun _ _ => pure (.fresh .null)) "search" .null
    wholeTimeWorld _ rfl (.inl rfl)
    ⟨fun _ _ _ => Check.Respects.pure _, fun _ _ found => nomatch found⟩ fun _ => draws
  have isOn : GateValues.state ⟨false, .empty, .empty, none, .float .nan, .int 100⟩ = .on := by
    decide +kernel
  rw [isOn] at state
  obtain ⟨w'', enabled⟩ := on isOn
  exact ⟨_, w'', state, enabled⟩

end FeatureGates
