import FeatureGates.Proofs.Decisions
import FeatureGates.Proofs.Reporting
import FeatureGates.Proofs.Representation

/-!
# What a check consults

A check asks gates in order up to the first that is open, or that fails
(`Gate.Asks`). While it does, the stored expression is evaluated, predicates
of groups are called and a number is drawn, each only if its gate is asked.
The predicates are those of enabled groups that have one; they are called in
ascending order of the groups' names up to the first that tells a member,
or fails (`Groups.Calls`).

What each gate leaves behind (`Gate.exists_consults`) adds up over the gates
that are asked (`Gate.Asks.exists_consults`) to the course of the whole check
(`Gate.Course`). The course is the same for any two sets of values that agree
on the gates that are asked (`Gate.Course.congr`): a gate looks at no value but its
own, at a set of names without regard to the order in which it was put
together, and at a group through its name.
-/

namespace FeatureGates

variable {α : Type}

/-- Where a check has ended, with a value or not. -/
def Check.ended : EStateM.Result Failure Surroundings α → Surroundings
  | .ok _ s => s
  | .error _ s => s

/-- The second surroundings are the first with some lines more in the log. -/
def Surroundings.Logs (s t : Surroundings) : Prop := ∃ lines, t = { s with log := s.log ++ lines }

/-! ## Predicates of groups -/

namespace Groups

/-- The predicate of a registered group, if it has one. -/
def predicate? (groups : Groups) (name : String) : Option (Value → Check Value) :=
  (groups.find? name).bind (·.predicate)

/-- Those of some names whose groups are registered with a predicate. -/
def callable (groups : Groups) (names : List String) : List String :=
  names.filter fun name => (groups.predicate? name).isSome

/-- From some surroundings the predicates of groups are called in order, up to the first that
tells a member or fails; which were called, and how that ends. -/
inductive Calls (groups : Groups) (thing : Value) : List String → Surroundings → List String →
    EStateM.Result Failure Surroundings Bool → Prop
  | done (s : Surroundings) : Calls groups thing [] s [] (.ok false s)
  | matched {name : String} {rest : List String} {predicate : Value → Check Value} {value : Value}
      {s s' : Surroundings} (found : groups.predicate? name = some predicate)
      (ran : predicate thing s = .ok value s') (member : value.isPresent = true) :
      Calls groups thing (name :: rest) s [name] (.ok true s')
  | failed {name : String} {rest : List String} {predicate : Value → Check Value}
      {failure : Failure} {s s' : Surroundings} (found : groups.predicate? name = some predicate)
      (ran : predicate thing s = .error failure s') :
      Calls groups thing (name :: rest) s [name] (.error failure s')
  | passed {name : String} {rest called : List String} {predicate : Value → Check Value}
      {value : Value} {s s' : Surroundings} {ending : EStateM.Result Failure Surroundings Bool}
      (found : groups.predicate? name = some predicate)
      (ran : predicate thing s = .ok value s') (stranger : value.isPresent = false)
      (others : Calls groups thing rest s' called ending) :
      Calls groups thing (name :: rest) s (name :: called) ending

/-- Looking for a group calls the predicates that there are. -/
theorem exists_calls (groups : Groups) (thing : Value) (names : List String) (s : Surroundings) :
    ∃ called, Calls groups thing (groups.callable names) s called
      (Gate.anyGroupMatches groups thing names s) := by
  induction names generalizing s with
  | nil => exact ⟨[], .done s⟩
  | cons name rest ih =>
    unfold Gate.anyGroupMatches
    cases found : (groups.find? name).bind (·.predicate) with
    | none =>
      have skipped : groups.callable (name :: rest) = groups.callable rest :=
        List.filter_cons_of_neg (by rw [predicate?, found]; exact Bool.false_ne_true)
      rw [skipped]
      exact ih s
    | some predicate =>
      have kept : groups.callable (name :: rest) = name :: groups.callable rest :=
        List.filter_cons_of_pos (by rw [predicate?, found]; rfl)
      rw [kept]
      dsimp only
      rw [bind_apply]
      cases ran : predicate thing s with
      | error failure s' => exact ⟨[name], .failed found ran⟩
      | ok value s' =>
        dsimp only
        cases member : value.isPresent with
        | true => exact ⟨[name], .matched found ran member⟩
        | false =>
          obtain ⟨called, others⟩ := ih s'
          exact ⟨name :: called, .passed found ran member others⟩

namespace Calls

variable {groups groups' : Groups} {thing : Value} {names called : List String} {s : Surroundings}
  {ending : EStateM.Result Failure Surroundings Bool}

theorem isPrefix (h : Calls groups thing names s called ending) : called <+: names := by
  induction h with
  | done s => exact List.prefix_rfl
  | matched => exact ⟨_, rfl⟩
  | failed => exact ⟨_, rfl⟩
  | passed _ _ _ _ ih => exact List.prefix_cons_inj _ |>.2 ih

/-- Registered groups are looked up by name, in whatever order they were registered. -/
theorem congr (h : Calls groups thing names s called ending)
    (same : ∀ name, groups'.find? name = groups.find? name) :
    Calls groups' thing names s called ending := by
  have predicates (name : String) : groups'.predicate? name = groups.predicate? name := by
    rw [predicate?, same, ← predicate?]
  induction h with
  | done s => exact .done s
  | matched found ran member => exact .matched ((predicates _).trans found) ran member
  | failed found ran => exact .failed ((predicates _).trans found) ran
  | passed found ran stranger _ ih => exact .passed ((predicates _).trans found) ran stranger ih

/-- Predicates that draw nothing leave the draws alone. -/
theorem drawn_eq (h : Calls groups thing names s called ending)
    (drawless : ∀ name predicate, groups.predicate? name = some predicate →
      ∀ thing s, ((predicate thing).leaves s).drawn = s.drawn) :
    (Check.ended ending).drawn = s.drawn := by
  have left {name : String} {predicate : Value → Check Value} {value : Value} {s s' : Surroundings}
      (found : groups.predicate? name = some predicate) (ran : predicate thing s = .ok value s') :
      s'.drawn = s.drawn := by
    have kept := drawless name predicate found thing s
    rwa [Check.leaves, ran] at kept
  induction h with
  | done s => rfl
  | matched found ran _ => exact left found ran
  | @failed name _ predicate _ s s' found ran =>
    have kept := drawless name predicate found thing s
    rwa [Check.leaves, ran] at kept
  | passed found ran _ _ ih => exact ih.trans (left found ran)

end Calls

theorem callable_congr {groups groups' : Groups}
    (same : ∀ name, groups'.find? name = groups.find? name) (names : List String) :
    groups'.callable names = groups.callable names := by
  unfold callable predicate?
  simp only [same]

end Groups

namespace CheckContext

variable (context : CheckContext)

/-- What the predicates of groups are called with. -/
def thing : Value :=
  match context.subject with
  | some subject => subject.thing
  | none => .null

/-- The enabled groups whose predicates may be called; without an actor there are none. -/
def callable (groups : Groups) : List String :=
  match context.subject with
  | some _ => groups.callable context.values.groups.names
  | none => []

/-- Where the evaluation of the stored expression ends that is begun in some surroundings; if
none is stored, or it is no expression, there is no evaluation. -/
def evaluated (environment : Environment) (s : Surroundings) : Surroundings :=
  match context.values.expression with
  | none => s
  | some stored =>
    match Node.build environment.registry (.record stored) with
    | .ok tree => (tree.evaluate environment.meaning context.evaluation).leaves s
    | .error _ => s

end CheckContext

namespace Gate

variable {environment environment' : Environment} {context context' : CheckContext}

/-! ## One gate -/

/-- What a gate consults that is asked from some surroundings: the predicates that are called,
and where that ends. -/
inductive Consults (environment : Environment) (context : CheckContext) :
    Gate → Surroundings → List String → Surroundings → Prop
  | boolean (s : Surroundings) : Consults environment context .boolean s [] s
  | expression {s t : Surroundings} (evaluated : (context.evaluated environment s).Logs t) :
      Consults environment context .expression s [] t
  | actor (s : Surroundings) : Consults environment context .actor s [] s
  | group {s : Surroundings} {called : List String}
      {ending : EStateM.Result Failure Surroundings Bool}
      (calls : Groups.Calls environment.groups context.thing
        (context.callable environment.groups) s called ending) :
      Consults environment context .group s called (Check.ended ending)
  | percentageOfActors (s : Surroundings) :
      Consults environment context .percentageOfActors s [] s
  | percentageOfTime (s : Surroundings) :
      Consults environment context .percentageOfTime s [] { s with drawn := s.drawn + 1 }

/-- The expression's gate leaves what the evaluation leaves, and a warning if that fails. -/
theorem logs_expressionIsOpen (environment : Environment) (context : CheckContext)
    (s : Surroundings) : (context.evaluated environment s).Logs
      (Check.ended (expressionIsOpen environment context s)) := by
  unfold CheckContext.evaluated
  cases there : context.values.expression with
  | none =>
    refine ⟨[], ?_⟩
    unfold expressionIsOpen
    rw [there, List.append_nil]
    rfl
  | some stored =>
    dsimp only
    cases built : Node.build environment.registry (.record stored) with
    | ok tree =>
      obtain ⟨isOpen, lines, ran, -⟩ := decides_isOpen environment context there built s
      have ran : expressionIsOpen environment context s = _ := ran
      exact ⟨lines, by rw [ran]; rfl⟩
    | error failure =>
      have stopped : evaluateStored environment context stored s = .error failure s := by
        unfold evaluateStored
        rw [built]
        rfl
      obtain ⟨line, ran⟩ := expressionIsOpen_of_error there stopped
      exact ⟨[line], by rw [ran]; rfl⟩

theorem exists_calls (environment : Environment) (context : CheckContext) (s : Surroundings) :
    ∃ called, Groups.Calls environment.groups context.thing
      (context.callable environment.groups) s called
      (groupIsOpen environment.groups context s) := by
  unfold CheckContext.callable CheckContext.thing groupIsOpen
  cases context.subject with
  | none => exact ⟨[], .done s⟩
  | some subject => exact environment.groups.exists_calls subject.thing _ s

theorem ended_percentageOfActorsIsOpen (context : CheckContext) (s : Surroundings) :
    Check.ended (percentageOfActorsIsOpen context s) = s := by
  unfold percentageOfActorsIsOpen
  cases context.subject with
  | none => rfl
  | some subject =>
    dsimp only
    cases Rollout.includes context.feature subject.id context.values.percentageOfActors <;> rfl

/-- The number is drawn before the share is looked at, so also where that fails. -/
theorem ended_percentageOfTimeIsOpen (context : CheckContext) (s : Surroundings) :
    Check.ended (percentageOfTimeIsOpen context s) = { s with drawn := s.drawn + 1 } := by
  have drawn : Check.draw s = .ok (s.stream s.drawn) { s with drawn := s.drawn + 1 } := rfl
  unfold percentageOfTimeIsOpen
  rw [bind_apply, drawn]
  cases context.values.percentageOfTime.divNat 100 <;> rfl

/-- Every gate consults what it may. -/
theorem exists_consults (environment : Environment) (context : CheckContext) (gate : Gate)
    (s : Surroundings) : ∃ called, Consults environment context gate s called
      (Check.ended (gate.isOpen environment context s)) := by
  cases gate with
  | boolean => exact ⟨[], .boolean s⟩
  | expression => exact ⟨[], .expression (logs_expressionIsOpen environment context s)⟩
  | actor => exact ⟨[], .actor s⟩
  | group =>
    obtain ⟨called, calls⟩ := exists_calls environment context s
    exact ⟨called, .group calls⟩
  | percentageOfActors =>
    show ∃ called, Consults environment context .percentageOfActors s called
      (Check.ended (percentageOfActorsIsOpen context s))
    rw [ended_percentageOfActorsIsOpen]
    exact ⟨[], .percentageOfActors s⟩
  | percentageOfTime =>
    show ∃ called, Consults environment context .percentageOfTime s called
      (Check.ended (percentageOfTimeIsOpen context s))
    rw [ended_percentageOfTimeIsOpen]
    exact ⟨[], .percentageOfTime s⟩

/-! ## All gates -/

/-- Gates are asked in order, up to the first that is open or fails; which are asked, and how
that ends. -/
inductive Asks (environment : Environment) (context : CheckContext) :
    List Gate → Surroundings → List Gate → EStateM.Result Failure Surroundings (Option Gate) → Prop
  | done (s : Surroundings) : Asks environment context [] s [] (.ok none s)
  | opened {gate : Gate} {rest : List Gate} {s s' : Surroundings}
      (ran : gate.isOpen environment context s = .ok true s') :
      Asks environment context (gate :: rest) s [gate] (.ok (some gate) s')
  | failed {gate : Gate} {rest : List Gate} {failure : Failure} {s s' : Surroundings}
      (ran : gate.isOpen environment context s = .error failure s') :
      Asks environment context (gate :: rest) s [gate] (.error failure s')
  | closed {gate : Gate} {rest asked : List Gate} {s s' : Surroundings}
      {ending : EStateM.Result Failure Surroundings (Option Gate)}
      (ran : gate.isOpen environment context s = .ok false s')
      (others : Asks environment context rest s' asked ending) :
      Asks environment context (gate :: rest) s (gate :: asked) ending

theorem exists_asks (environment : Environment) (context : CheckContext) (gates : List Gate)
    (s : Surroundings) : ∃ asked, Asks environment context gates s asked
      (firstOpenOf environment context gates s) := by
  induction gates generalizing s with
  | nil => exact ⟨[], .done s⟩
  | cons gate rest ih =>
    rw [firstOpenOf, bind_apply]
    cases ran : gate.isOpen environment context s with
    | error failure s' => exact ⟨[gate], .failed ran⟩
    | ok isOpen s' =>
      cases isOpen with
      | true => exact ⟨[gate], .opened ran⟩
      | false =>
        obtain ⟨asked, others⟩ := ih s'
        exact ⟨gate :: asked, .closed ran others⟩

/-- What some gates consult that are asked in turn. -/
inductive ConsultsAll (environment : Environment) (context : CheckContext) :
    List Gate → Surroundings → List String → Surroundings → Prop
  | nil (s : Surroundings) : ConsultsAll environment context [] s [] s
  | cons {gate : Gate} {rest : List Gate} {called others : List String} {s s' s'' : Surroundings}
      (first : Consults environment context gate s called s')
      (after : ConsultsAll environment context rest s' others s'') :
      ConsultsAll environment context (gate :: rest) s (called ++ others) s''

namespace Asks

variable {gates asked : List Gate} {s : Surroundings}
  {ending : EStateM.Result Failure Surroundings (Option Gate)}

theorem eq_firstOpenOf (h : Asks environment context gates s asked ending) :
    firstOpenOf environment context gates s = ending := by
  induction h with
  | done s => rfl
  | opened ran =>
    rw [firstOpenOf, bind_apply, ran]
    rfl
  | failed ran =>
    rw [firstOpenOf, bind_apply, ran]
  | closed ran _ ih =>
    rw [firstOpenOf, bind_apply, ran]
    exact ih

theorem isPrefix (h : Asks environment context gates s asked ending) : asked <+: gates := by
  induction h with
  | done s => exact List.prefix_rfl
  | opened => exact ⟨_, rfl⟩
  | failed => exact ⟨_, rfl⟩
  | closed _ _ ih => exact List.prefix_cons_inj _ |>.2 ih

/-- What is asked of two contexts in the same way is asked in both. -/
theorem congr (h : Asks environment context gates s asked ending)
    (same : ∀ gate ∈ asked, gate.isOpen environment' context' = gate.isOpen environment context) :
    Asks environment' context' gates s asked ending := by
  induction h with
  | done s => exact .done s
  | opened ran => exact .opened ((congrFun (same _ List.mem_cons_self) _).trans ran)
  | failed ran => exact .failed ((congrFun (same _ List.mem_cons_self) _).trans ran)
  | closed ran _ ih =>
    exact .closed ((congrFun (same _ List.mem_cons_self) _).trans ran)
      (ih fun gate mem => same gate (List.mem_cons_of_mem _ mem))

/-- A gate is asked if those before it are all asked and found closed. -/
theorem mem_iff {before after : List Gate} {gate : Gate} (new : gate ∉ before)
    (h : Asks environment context (before ++ gate :: after) s asked ending) :
    gate ∈ asked ↔ ∃ t, AllClosed environment context before s t := by
  induction before generalizing s asked with
  | nil =>
    refine iff_of_true ?_ ⟨s, .nil s⟩
    cases h <;> exact List.mem_cons_self
  | cons first before ih =>
    have apart : gate ≠ first := fun same => new (same ▸ List.mem_cons_self)
    have stopped (ran : ∀ t, first.isOpen environment context s ≠ .ok false t) :
        gate ∈ [first] ↔ ∃ t, AllClosed environment context (first :: before) s t := by
      refine iff_of_false (fun mem => apart (List.mem_singleton.1 mem)) ?_
      rintro ⟨t, shut⟩
      cases shut with
      | cons shut _ => exact ran _ shut
    cases h with
    | opened ran =>
      refine stopped fun t shut => ?_
      injection ran.symm.trans shut with same
      cases same
    | failed ran =>
      refine stopped fun t shut => ?_
      cases ran.symm.trans shut
    | closed ran others =>
      have others := ih (fun mem => new (List.mem_cons_of_mem _ mem)) others
      rw [List.mem_cons, or_iff_right apart, others]
      constructor
      · rintro ⟨t, shut⟩
        exact ⟨t, .cons ran shut⟩
      · rintro ⟨t, shut⟩
        cases shut with
        | cons first shut =>
          cases ran.symm.trans first
          exact ⟨t, shut⟩

/-- The gates that are asked consult what each of them may. -/
theorem exists_consults (h : Asks environment context gates s asked ending) :
    ∃ called, ConsultsAll environment context asked s called (Check.ended ending) := by
  induction h with
  | done s => exact ⟨[], .nil s⟩
  | @opened gate _ s s' ran =>
    obtain ⟨called, first⟩ := Gate.exists_consults environment context gate s
    rw [ran] at first
    exact ⟨_, .cons first (.nil s')⟩
  | @failed gate _ _ s s' ran =>
    obtain ⟨called, first⟩ := Gate.exists_consults environment context gate s
    rw [ran] at first
    exact ⟨_, .cons first (.nil s')⟩
  | @closed gate _ _ s s' _ ran _ ih =>
    obtain ⟨called, first⟩ := Gate.exists_consults environment context gate s
    rw [ran] at first
    obtain ⟨others, after⟩ := ih
    exact ⟨_, .cons first after⟩

end Asks

namespace ConsultsAll

variable {asked rest : List Gate} {called : List String} {s t : Surroundings}

/-- What the first of some gates consults comes first, if it is asked. -/
theorem of_isPrefix_cons {gate : Gate} (h : ConsultsAll environment context asked s called t)
    (part : asked <+: gate :: rest) : asked = [] ∧ called = [] ∧ t = s ∨
      ∃ asked' own others s', asked = gate :: asked' ∧ asked' <+: rest ∧ called = own ++ others ∧
        Consults environment context gate s own s' ∧
        ConsultsAll environment context asked' s' others t := by
  cases h with
  | nil => exact .inl ⟨rfl, rfl, rfl⟩
  | cons first after =>
    obtain ⟨rfl, others⟩ := List.cons_prefix_cons.1 part
    exact .inr ⟨_, _, _, _, rfl, others, rfl, first, after⟩

/-- The percentages call no predicate; that of time draws. -/
theorem percentages (h : ConsultsAll environment context asked s called t)
    (part : asked <+: [.percentageOfActors, .percentageOfTime]) :
    called = [] ∧
      t = if .percentageOfTime ∈ asked then { s with drawn := s.drawn + 1 } else s := by
  rcases h.of_isPrefix_cons part with ⟨rfl, rfl, rfl⟩ |
    ⟨asked, _, _, _, rfl, part, rfl, ⟨⟩, h⟩
  · exact ⟨rfl, rfl⟩
  rcases h.of_isPrefix_cons part with ⟨rfl, rfl, rfl⟩ |
    ⟨asked, _, _, _, rfl, part, rfl, ⟨⟩, h⟩
  · exact ⟨rfl, rfl⟩
  obtain rfl := List.prefix_nil.1 part
  cases h
  exact ⟨rfl, rfl⟩

/-- From the actors on, predicates are called just if the groups are asked. -/
theorem fromActor (h : ConsultsAll environment context asked s called t)
    (part : asked <+: [.actor, .group, .percentageOfActors, .percentageOfTime]) :
    ∃ matched, Groups.Calls environment.groups context.thing
        (if .group ∈ asked then context.callable environment.groups else []) s called matched ∧
      t = if .percentageOfTime ∈ asked
        then { Check.ended matched with drawn := (Check.ended matched).drawn + 1 }
        else Check.ended matched := by
  rcases h.of_isPrefix_cons part with ⟨rfl, rfl, rfl⟩ |
    ⟨asked, _, _, _, rfl, part, rfl, ⟨⟩, h⟩
  · exact ⟨.ok false _, .done _, rfl⟩
  rcases h.of_isPrefix_cons part with ⟨rfl, rfl, rfl⟩ |
    ⟨asked, called, _, _, rfl, part, rfl, own, h⟩
  · exact ⟨.ok false _, .done _, rfl⟩
  obtain ⟨rfl, ended⟩ := h.percentages part
  have group : Gate.group ∈ .actor :: .group :: asked := by simp
  have time : .percentageOfTime ∈ Gate.actor :: .group :: asked ↔ .percentageOfTime ∈ asked := by
    simp
  simp only [if_pos group, time]
  cases own with
  | group calls => exact ⟨_, (called.append_nil).symm ▸ calls, ended⟩

end ConsultsAll

/-- What a check consults that asks some gates and ends in `t`: the expression is evaluated, the
predicates of groups are called and a number is drawn, each just if its gate is asked, in this
order. -/
def Consultation (environment : Environment) (context : CheckContext) (s : Surroundings)
    (asked : List Gate) (called : List String) (t : Surroundings) : Prop :=
  ∃ evaluated matched,
    (if .expression ∈ asked then (context.evaluated environment s).Logs evaluated
      else evaluated = s) ∧
    Groups.Calls environment.groups context.thing
      (if .group ∈ asked then context.callable environment.groups else []) evaluated called
      matched ∧
    t = if .percentageOfTime ∈ asked
      then { Check.ended matched with drawn := (Check.ended matched).drawn + 1 }
      else Check.ended matched

/-- How a check of the gates goes that begins in some surroundings: the gates that are asked, the
predicates that are called, and the end. -/
structure Course (environment : Environment) (context : CheckContext) (s : Surroundings)
    (asked : List Gate) (called : List String)
    (ending : EStateM.Result Failure Surroundings (Option Gate)) : Prop where
  asks : Asks environment context order s asked ending
  consults : Consultation environment context s asked called (Check.ended ending)

theorem ConsultsAll.consultation {asked : List Gate} {called : List String} {s t : Surroundings}
    (h : ConsultsAll environment context asked s called t) (part : asked <+: order) :
    Consultation environment context s asked called t := by
  rcases h.of_isPrefix_cons part with ⟨rfl, rfl, rfl⟩ |
    ⟨asked, _, _, _, rfl, part, rfl, ⟨⟩, h⟩
  · exact ⟨_, .ok false _, rfl, .done _, rfl⟩
  rcases h.of_isPrefix_cons part with ⟨rfl, rfl, rfl⟩ |
    ⟨asked, _, _, _, rfl, part, rfl, own, h⟩
  · exact ⟨_, .ok false _, rfl, .done _, rfl⟩
  obtain ⟨matched, calls, ended⟩ := h.fromActor part
  have expression : Gate.expression ∈ .boolean :: .expression :: asked := by simp
  have group : .group ∈ Gate.boolean :: .expression :: asked ↔ .group ∈ asked := by simp
  have time : .percentageOfTime ∈ Gate.boolean :: .expression :: asked ↔
      .percentageOfTime ∈ asked := by simp
  simp only [Consultation, if_pos expression, group, time]
  cases own with
  | expression evaluated => exact ⟨_, matched, evaluated, calls, ended⟩

/-- Every check has a course, and ends as it does. -/
theorem exists_course (environment : Environment) (context : CheckContext) (s : Surroundings) :
    ∃ asked called, Course environment context s asked called
      (firstOpen environment context s) := by
  obtain ⟨asked, asks⟩ := exists_asks environment context order s
  obtain ⟨called, all⟩ := asks.exists_consults
  exact ⟨asked, called, asks, all.consultation asks.isPrefix⟩

namespace Course

variable {s : Surroundings} {asked : List Gate} {called : List String}
  {ending : EStateM.Result Failure Surroundings (Option Gate)}

theorem called_isPrefix (h : Course environment context s asked called ending) :
    called <+: context.callable environment.groups := by
  obtain ⟨-, evaluated, matched, -, calls, -⟩ := h
  split at calls
  · exact calls.isPrefix
  · rw [List.prefix_nil.1 calls.isPrefix]
    exact List.nil_prefix

/-- Predicates are called in ascending order of their groups' names, each once. -/
theorem called_ascending (h : Course environment context s asked called ending) :
    called.Pairwise (· < ·) := by
  refine List.Pairwise.sublist h.called_isPrefix.sublist ?_
  unfold CheckContext.callable
  cases context.subject with
  | none => exact .nil
  | some subject => exact context.values.groups.ascending.filter _

/-- Without an actor, or where an earlier gate is open, no predicate is called. -/
theorem called_eq_nil (h : Course environment context s asked called ending)
    (unasked : context.subject = none ∨ .group ∉ asked) : called = [] := by
  rcases unasked with none | unasked
  · have empty : context.callable environment.groups = [] := by
      unfold CheckContext.callable
      rw [none]
    exact List.prefix_nil.1 (empty ▸ h.called_isPrefix)
  · obtain ⟨-, evaluated, matched, -, calls, -⟩ := h
    rw [if_neg unasked] at calls
    exact List.prefix_nil.1 calls.isPrefix

theorem drawn_eq (h : Course environment context s asked called ending)
    (drawless : ∀ name predicate, environment.groups.predicate? name = some predicate →
      ∀ thing s, ((predicate thing).leaves s).drawn = s.drawn) :
    (Check.ended ending).drawn =
      (if .expression ∈ asked then context.evaluated environment s else s).drawn +
        if .percentageOfTime ∈ asked then 1 else 0 := by
  obtain ⟨-, evaluated, matched, evaluation, calls, ended⟩ := h
  have consulted : (Check.ended matched).drawn =
      (if .expression ∈ asked then context.evaluated environment s else s).drawn := by
    rw [calls.drawn_eq drawless]
    split at evaluation
    · obtain ⟨lines, rfl⟩ := evaluation
      rw [if_pos ‹_›]
    · rw [evaluation, if_neg ‹_›]
  rw [ended, ← consulted]
  split <;> rfl

end Course

/-! ## What a check does not look at -/

section Congr

variable {groups : Groups} {values : GateValues}

theorem anyGroupMatches_congr (same : ∀ name, groups.find? name = environment.groups.find? name)
    (thing : Value) (names : List String) :
    anyGroupMatches groups thing names = anyGroupMatches environment.groups thing names := by
  induction names with
  | nil => rfl
  | cons name rest ih =>
    unfold anyGroupMatches
    rw [same, ih]

/-- A gate looks at no value but its own, and at groups through their names. -/
theorem isOpen_congr (same : ∀ name, groups.find? name = environment.groups.find? name)
    {gate : Gate} (own : values.get gate = context.values.get gate) :
    gate.isOpen { environment with groups } { context with values } =
      gate.isOpen environment context := by
  cases gate with
  | boolean =>
    have own : Value.bool values.boolean = .bool context.values.boolean := own
    injection own with own
    injection own with own
    show (pure values.boolean : Check Bool) = pure context.values.boolean
    rw [own]
  | expression =>
    rw [GateValues.get_expression, GateValues.get_expression] at own
    have own : values.expression = context.values.expression := Value.ofRecord?_injective own
    show expressionIsOpen _ { context with values } = expressionIsOpen _ context
    unfold expressionIsOpen
    dsimp only
    rw [own]
    rfl
  | actor =>
    have own : values.actors = context.values.actors := GateValues.setOfNames_injective own
    show (pure (actorIsOpen { context with values }) : Check Bool) = pure (actorIsOpen context)
    unfold actorIsOpen
    rw [own]
  | group =>
    have own : values.groups = context.values.groups := GateValues.setOfNames_injective own
    show groupIsOpen groups { context with values } = groupIsOpen environment.groups context
    unfold groupIsOpen
    dsimp only
    rw [own]
    cases context.subject with
    | none => rfl
    | some subject => exact anyGroupMatches_congr same _ _
  | percentageOfActors =>
    have own : Value.number values.percentageOfActors =
      .number context.values.percentageOfActors := own
    injection own with own
    injection own with own
    show percentageOfActorsIsOpen { context with values } = percentageOfActorsIsOpen context
    unfold percentageOfActorsIsOpen
    rw [own]
  | percentageOfTime =>
    have own : Value.number values.percentageOfTime = .number context.values.percentageOfTime := own
    injection own with own
    injection own with own
    show percentageOfTimeIsOpen { context with values } = percentageOfTimeIsOpen context
    unfold percentageOfTimeIsOpen
    rw [own]

/-- Values that agree on the gates that are asked, and groups that are found under the same
names, make for the same course. -/
theorem Course.congr {s : Surroundings} {asked : List Gate} {called : List String}
    {ending : EStateM.Result Failure Surroundings (Option Gate)}
    (h : Course environment context s asked called ending)
    (same : ∀ name, groups.find? name = environment.groups.find? name)
    (own : ∀ gate ∈ asked, values.get gate = context.values.get gate) :
    Course { environment with groups } { context with values } s asked called ending := by
  obtain ⟨asks, evaluated, matched, evaluation, calls, ended⟩ := h
  refine ⟨asks.congr fun gate mem => isOpen_congr same (own gate mem), evaluated, matched, ?_, ?_,
    ended⟩
  · split at evaluation
    · rename_i listed
      have expression := own .expression listed
      rw [GateValues.get_expression, GateValues.get_expression] at expression
      rw [if_pos listed]
      unfold CheckContext.evaluated at evaluation ⊢
      dsimp only at evaluation ⊢
      rw [Value.ofRecord?_injective expression]
      exact evaluation
    · rename_i unlisted
      rw [if_neg unlisted]
      exact evaluation
  · have callable : (if Gate.group ∈ asked then
          CheckContext.callable { context with values } groups else []) =
        if .group ∈ asked then context.callable environment.groups else [] := by
      refine ite_congr rfl (fun listed => ?_) fun _ => rfl
      have enabled : values.groups = context.values.groups :=
        GateValues.setOfNames_injective (own .group listed)
      unfold CheckContext.callable
      dsimp only
      rw [enabled]
      cases context.subject with
      | none => rfl
      | some subject => exact Groups.callable_congr same _
    dsimp only
    rw [callable]
    exact calls.congr same

end Congr

end Gate

end FeatureGates
