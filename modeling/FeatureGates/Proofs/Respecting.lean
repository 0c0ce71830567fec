import FeatureGates.Gate.Check
import FeatureGates.Proofs.Refinement

/-!
# Checks that respect a relation of surroundings

A check *respects* a relation of surroundings if from related ones it ends
alike, in related ones again (`Check.Respects`). All that a check does by
itself is to draw, to read the clock and to write to the log. Where these
three keep a relation (`Check.Kept`), every built-in operator respects it in
arguments that do (`Meaning.respects_ofBuiltin`), so a tree does if the
added operators do (`Node.respects_evaluate`), and asking the gates does if
the groups do too (`Gate.respects_firstOpen`).
-/

namespace FeatureGates

variable {α β : Type} {R : Surroundings → Surroundings → Prop}

namespace Check

/-- From related surroundings the check ends alike, in related ones. -/
def Respects (R : Surroundings → Surroundings → Prop) (check : Check α) : Prop :=
  Matches R Eq check check

/-- What a check does by itself keeps the relation. -/
structure Kept (R : Surroundings → Surroundings → Prop) : Prop where
  draw : Respects R Check.draw
  now : Respects R Check.now
  logLine (line : LogLine) : Respects R (Check.logLine line)

namespace Respects

theorem pure (a : α) : Respects R (Pure.pure a) := Matches.pure rfl

theorem bind {check : Check α} {f : α → Check β} (h : Respects R check)
    (hf : ∀ a, Respects R (f a)) : Respects R (check >>= f) := by
  refine Matches.bind h ?_
  intro a b same
  rw [same]
  exact hf b

theorem throw (failure : Failure) : Respects R (MonadExcept.throw failure : Check α) :=
  Matches.throw failure

theorem ofExcept (result : Except Failure α) : Respects R (Check.ofExcept result) := by
  cases result with
  | ok a => exact pure a
  | error failure => exact throw failure

theorem tryCatch {check : Check α} {handle : Failure → Check α} (h : Respects R check)
    (hh : ∀ failure, Respects R (handle failure)) :
    Respects R (MonadExcept.tryCatch check handle) := Matches.tryCatch h hh

theorem ite {p : Prop} [Decidable p] {a b : Check α} (ha : Respects R a) (hb : Respects R b) :
    Respects R (if p then a else b) := by
  split
  · exact ha
  · exact hb

end Respects

end Check

open Check

/-! ## Operators -/

/-- All of some arguments respect the relation. -/
def Arguments.Respect (R : Surroundings → Surroundings → Prop) (args : Arguments) : Prop :=
  ∀ arg ∈ args, Check.Respects R arg

/-- Added operators respect the relation in arguments that do. -/
def Meaning.Respects (R : Surroundings → Surroundings → Prop) (meaning : Meaning) : Prop :=
  ∀ signature args, Arguments.Respect R args → Check.Respects R (meaning signature args)

namespace Meaning

variable {args : Arguments}

theorem respects_argument (h : Arguments.Respect R args) (index : Nat) :
    Check.Respects R (argument args index) := by
  unfold argument
  cases at_index : args[index]? with
  | none => exact .pure _
  | some arg => exact h arg (List.mem_of_getElem? at_index)

theorem respects_argumentValue (h : Arguments.Respect R args) (index : Nat) :
    Check.Respects R (argumentValue args index) :=
  (respects_argument h index).bind fun _ => .pure _

theorem respects_argumentNumber (h : Arguments.Respect R args) (index : Nat) :
    Check.Respects R (argumentNumber args index) :=
  (respects_argumentValue h index).bind fun _ => .ofExcept _

theorem respects_anyIs (h : Arguments.Respect R args) (stop : Bool) :
    Check.Respects R (anyIs stop args) := by
  induction args with
  | nil => exact .pure _
  | cons arg rest ih =>
    refine (h arg List.mem_cons_self).bind fun _ => (Respects.ofExcept _).bind fun _ => ?_
    exact .ite (.pure _) (ih fun a ha => h a (List.mem_cons_of_mem arg ha))

theorem respects_compare (h : Arguments.Respect R args) (relation : Operand → Operand → Bool) :
    Check.Respects R (compare args relation) :=
  (respects_argument h 0).bind fun _ => (respects_argument h 1).bind fun _ => .pure _

theorem respects_toNumber (h : Arguments.Respect R args) : Check.Respects R (toNumber args) :=
  (respects_argumentNumber h 0).bind fun _ => (Respects.ofExcept _).bind fun _ =>
    .ite (.pure _) (.pure _)

theorem respects_toText (h : Arguments.Respect R args) : Check.Respects R (toText args) := by
  refine (respects_argumentValue h 0).bind ?_
  intro value
  split
  · exact .pure _
  · exact (Respects.ofExcept _).bind fun _ => .pure _

theorem respects_property (context : EvaluationContext) (h : Arguments.Respect R args) :
    Check.Respects R (property context args) :=
  (respects_argumentValue h 0).bind fun _ => (Respects.ofExcept _).bind fun _ =>
    (Respects.ofExcept _).bind fun _ => .pure _

theorem respects_random (kept : Kept R) (h : Arguments.Respect R args) :
    Check.Respects R (random args) := by
  refine (respects_argumentNumber h 0).bind fun _ => (Respects.ofExcept _).bind fun _ => ?_
  refine .ite (.pure _) (kept.draw.bind fun _ => ?_)
  exact (Respects.ofExcept _).bind fun _ => (Respects.ofExcept _).bind fun _ => .pure _

theorem respects_percentage (h : Arguments.Respect R args) :
    Check.Respects R (percentage args) :=
  (respects_argumentNumber h 0).bind fun _ => (respects_argumentNumber h 1).bind fun _ => .pure _

theorem respects_percentageOfActors (context : EvaluationContext) (h : Arguments.Respect R args) :
    Check.Respects R (percentageOfActors context args) := by
  refine (respects_argumentValue h 0).bind fun _ => (Respects.ofExcept _).bind fun _ => ?_
  refine (respects_argumentNumber h 1).bind fun _ => .ite (.pure _) ?_
  refine (Respects.ofExcept _).bind fun _ => .ite (.pure _) ?_
  exact (Respects.ofExcept _).bind fun _ => .pure _

theorem respects_duration (h : Arguments.Respect R args) : Check.Respects R (duration args) := by
  refine (respects_argumentNumber h 0).bind fun _ => (respects_argumentValue h 1).bind fun _ => ?_
  refine (Respects.ofExcept _).bind ?_
  intro unit
  dsimp only
  split
  · exact .throw _
  · refine (Respects.ofExcept _).bind fun _ => .ite ?_ ?_
    · exact (respects_argumentValue h 0).bind fun _ =>
        (Respects.ofExcept _).bind fun _ => .throw _
    · exact (Respects.ofExcept _).bind fun _ => .pure _

theorem respects_now (kept : Kept R) : Check.Respects R now :=
  kept.now.bind fun _ => (Respects.ofExcept _).bind fun _ => .pure _

/-- The built-in operators respect what is kept, in arguments that do. -/
theorem respects_ofBuiltin (kept : Kept R) (context : EvaluationContext) (operator : Builtin)
    (h : Arguments.Respect R args) : Check.Respects R (ofBuiltin context operator args) := by
  cases operator with
  | all => exact (respects_anyIs h false).bind fun _ => .pure _
  | any => exact (respects_anyIs h true).bind fun _ => .pure _
  | boolean =>
    exact (respects_argumentValue h 0).bind fun _ => (Respects.ofExcept _).bind fun _ => .pure _
  | duration => exact respects_duration h
  | equal => exact respects_compare h _
  | greaterThan => exact respects_compare h _
  | greaterThanOrEqualTo => exact respects_compare h _
  | lessThan => exact respects_compare h _
  | lessThanOrEqualTo => exact respects_compare h _
  | notEqual => exact respects_compare h _
  | now => exact respects_now kept
  | number => exact respects_toNumber h
  | percentage => exact respects_percentage h
  | percentageOfActors => exact respects_percentageOfActors context h
  | property => exact respects_property context h
  | random => exact respects_random kept h
  | string => exact respects_toText h
  | time =>
    exact (respects_argumentValue h 0).bind fun _ => (Respects.ofExcept _).bind fun _ => .pure _

end Meaning

/-! ## Trees -/

namespace Node

variable {meaning : Meaning}

mutual

theorem respects_evaluate (kept : Kept R) (hm : meaning.Respects R) (context : EvaluationContext) :
    ∀ tree : Node, Check.Respects R (tree.evaluate meaning context)
  | .constant _ => .pure _
  | .call (.builtin operator) args =>
    Meaning.respects_ofBuiltin kept context operator (respects_evaluateAll kept hm context args)
  | .call (.custom signature) args => hm signature _ (respects_evaluateAll kept hm context args)

theorem respects_evaluateAll (kept : Kept R) (hm : meaning.Respects R)
    (context : EvaluationContext) :
    ∀ args : List Node, Arguments.Respect R (evaluateAll meaning context args)
  | [] => fun _ mem => absurd mem List.not_mem_nil
  | arg :: rest => by
    intro check mem
    rcases List.mem_cons.1 mem with rfl | mem
    · exact respects_evaluate kept hm context arg
    · exact respects_evaluateAll kept hm context rest check mem

end

end Node

/-! ## Gates -/

/-- The predicates of registered groups respect the relation. -/
def Groups.Respect (R : Surroundings → Surroundings → Prop) (groups : Groups) : Prop :=
  ∀ name predicate, (groups.find? name).bind (·.predicate) = some predicate →
    ∀ thing, Check.Respects R (predicate thing)

/-- What is added to checks from outside respects the relation. -/
structure Environment.Respects (R : Surroundings → Surroundings → Prop)
    (environment : Environment) : Prop where
  meaning : environment.meaning.Respects R
  groups : environment.groups.Respect R

namespace Gate

variable {environment : Environment}

theorem respects_expressionIsOpen (kept : Kept R) (hm : environment.meaning.Respects R)
    (context : CheckContext) :
    Check.Respects R (expressionIsOpen environment context) := by
  unfold expressionIsOpen
  split
  · exact .pure _
  · refine .tryCatch ?_ fun failure => (kept.logLine _).bind fun _ => .pure _
    refine (Respects.ofExcept _).bind ?_
    intro tree
    exact (tree.respects_evaluate kept hm _).bind fun _ => .ofExcept _

theorem respects_anyGroupMatches {groups : Groups} (hg : groups.Respect R) (thing : Value)
    (names : List String) : Check.Respects R (anyGroupMatches groups thing names) := by
  induction names with
  | nil => exact .pure _
  | cons name rest ih =>
    unfold anyGroupMatches
    split
    · rename_i predicate found
      exact (hg name predicate found thing).bind fun _ => .ite (.pure _) ih
    · exact ih

theorem respects_groupIsOpen {groups : Groups} (hg : groups.Respect R) (context : CheckContext) :
    Check.Respects R (groupIsOpen groups context) := by
  unfold groupIsOpen
  split
  · exact respects_anyGroupMatches hg _ _
  · exact .pure _

theorem respects_percentageOfActorsIsOpen (context : CheckContext) :
    Check.Respects R (percentageOfActorsIsOpen context) := by
  unfold percentageOfActorsIsOpen
  split
  · exact .ofExcept _
  · exact .pure _

theorem respects_percentageOfTimeIsOpen (kept : Kept R) (context : CheckContext) :
    Check.Respects R (percentageOfTimeIsOpen context) :=
  kept.draw.bind fun _ => (Respects.ofExcept _).bind fun _ => .pure _

theorem respects_isOpen (kept : Kept R) (h : environment.Respects R) (context : CheckContext)
    (gate : Gate) :
    Check.Respects R (gate.isOpen environment context) := by
  cases gate with
  | boolean => exact .pure _
  | expression => exact respects_expressionIsOpen kept h.meaning context
  | actor => exact .pure _
  | group => exact respects_groupIsOpen h.groups context
  | percentageOfActors => exact respects_percentageOfActorsIsOpen context
  | percentageOfTime => exact respects_percentageOfTimeIsOpen kept context

theorem respects_firstOpenOf (kept : Kept R) (h : environment.Respects R) (context : CheckContext)
    (gates : List Gate) : Check.Respects R (firstOpenOf environment context gates) := by
  induction gates with
  | nil => exact .pure _
  | cons gate rest ih =>
    exact (respects_isOpen kept h context gate).bind fun _ => .ite (.pure _) ih

/-- Asking the gates respects what is kept if the added operators and the groups do. -/
theorem respects_firstOpen (kept : Kept R) (h : environment.Respects R) (context : CheckContext) :
    Check.Respects R (firstOpen environment context) :=
  respects_firstOpenOf kept h context order

end Gate

end FeatureGates
