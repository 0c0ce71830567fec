import FeatureGates.Expression.Evaluate
import FeatureGates.Proofs.Refinement

/-!
# Connectives

`All` and `Any` run their members in turn up to the first whose truth value
settles the answer: false for `All`, true for `Any`. So both are one
connective, told apart by the truth value at which it stops.

What is said of a connective is said of members that are run in any way
(`Node.connect`): as plain evaluation runs them, or so that each makes
itself known first (`Node.evaluateTold`), and then what a run leaves behind
tells which members were evaluated, and in which order. A connective among
the members of one of its own kind may give way to its members
(`Node.connective_flat`), and where the members up to one settle the answer
nothing after it is run (`Node.connective_settled`). Both come from how the
search for the first settling member goes over an append
(`Meaning.anyIs_append`).
-/

namespace FeatureGates

/-- The connective that stops at the first member of this truth value. -/
def Builtin.connective : Bool → Builtin
  | false => .all
  | true => .any

namespace Meaning

variable {context : EvaluationContext} {stop : Bool}

/-- A connective answers with the truth value it stops at if it stops, with the other if not. -/
theorem ofBuiltin_connective (stop : Bool) (context : EvaluationContext) (args : Arguments) :
    ofBuiltin context (.connective stop) args = (do
      return answer (if ← anyIs stop args then stop else !stop)) := by
  cases stop with
  | false =>
    refine bind_congr fun stopped => ?_
    cases stopped <;> rfl
  | true =>
    refine bind_congr fun stopped => ?_
    cases stopped <;> rfl

theorem anyIs_cons (stop : Bool) (arg : Check Operand) (rest : Arguments) :
    anyIs stop (arg :: rest) = (do
      let holds ← Check.ofExcept (← arg).value.truthy
      if holds = stop then return true else anyIs stop rest) := rfl

/-- The later members are run only if the search did not stop among the earlier ones. -/
theorem anyIs_append (stop : Bool) (xs ys : Arguments) :
    anyIs stop (xs ++ ys) = (do if ← anyIs stop xs then return true else anyIs stop ys) := by
  induction xs with
  | nil => rfl
  | cons x xs ih =>
    rw [List.cons_append, anyIs_cons, anyIs_cons, ih]
    simp only [bind_assoc]
    refine bind_congr fun a => bind_congr fun holds => ?_
    split
    · rfl
    · rfl

/-- A connective that is itself a member settles the answer if one of its own members does. -/
theorem anyIs_connective (stop : Bool) (context : EvaluationContext) (args : Arguments) :
    anyIs stop [ofBuiltin context (.connective stop) args] = anyIs stop args := by
  rw [anyIs_cons, ofBuiltin_connective]
  simp only [bind_assoc, pure_bind]
  refine Eq.trans (bind_congr (g := pure) fun stopped => ?_) (bind_pure _)
  cases stopped <;> cases stop <;> rfl

/-- In place of a connective among the members its own members may stand. -/
theorem ofBuiltin_flat (stop : Bool) (context : EvaluationContext) (xs ys zs : Arguments) :
    ofBuiltin context (.connective stop) (xs ++ [ofBuiltin context (.connective stop) ys] ++ zs) =
      ofBuiltin context (.connective stop) (xs ++ ys ++ zs) := by
  have search : anyIs stop (xs ++ [ofBuiltin context (.connective stop) ys] ++ zs) =
      anyIs stop (xs ++ ys ++ zs) := by
    rw [anyIs_append, anyIs_append stop xs, anyIs_connective, ← anyIs_append, ← anyIs_append]
  rw [ofBuiltin_connective stop context (_ ++ _ ++ zs), search, ← ofBuiltin_connective]

end Meaning

/-! ## What settles the answer -/

/-- From the first surroundings the check gives something of this truth value, and ends in the
second. -/
def Check.HasTruth (truth : Bool) (check : Check Operand) (s s' : Surroundings) : Prop :=
  ∃ a, check s = .ok a s' ∧ a.value.truthy = .ok truth

/-- Run in turn, all of the arguments give this truth value. -/
inductive Arguments.HaveTruth (truth : Bool) : Arguments → Surroundings → Surroundings → Prop where
  | nil (s : Surroundings) : HaveTruth truth [] s s
  | cons {arg : Check Operand} {rest : Arguments} {s s' s'' : Surroundings} :
    arg.HasTruth truth s s' → HaveTruth truth rest s' s'' → HaveTruth truth (arg :: rest) s s''

namespace Meaning

variable {stop : Bool} {args : Arguments} {s s' s'' : Surroundings}

/-- Whether the search stops at an argument is up to its truth value. -/
theorem anyIs_cons_of_hasTruth {arg : Check Operand} {truth : Bool}
    (h : Check.HasTruth truth arg s s') (rest : Arguments) :
    anyIs stop (arg :: rest) s =
      if truth = stop then .ok true s' else anyIs stop rest s' := by
  obtain ⟨a, ran, judged⟩ := h
  rw [anyIs_cons, bind_apply, ran]
  dsimp only
  rw [judged, bind_apply]
  show (if truth = stop then pure true else anyIs stop rest : Check Bool) s' = _
  split
  · rfl
  · rfl

theorem anyIs_of_haveTruth (h : args.HaveTruth (!stop) s s') :
    anyIs stop args s = .ok false s' := by
  induction h with
  | nil s => rfl
  | cons given _ ih => rw [anyIs_cons_of_hasTruth given, if_neg (Bool.not_eq_self stop).1, ih]

/-- Once the answer is settled, no argument is run. -/
theorem ofBuiltin_settled {arg : Check Operand} (before : args.HaveTruth (!stop) s s')
    (settles : Check.HasTruth stop arg s' s'') (context : EvaluationContext) (rest : Arguments) :
    ofBuiltin context (.connective stop) (args ++ [arg] ++ rest) s = .ok (answer stop) s'' := by
  have search : anyIs stop (args ++ [arg] ++ rest) s = .ok true s'' := by
    rw [List.append_assoc, anyIs_append, bind_apply, anyIs_of_haveTruth before]
    exact (anyIs_cons_of_hasTruth settles rest).trans (if_pos rfl)
  rw [ofBuiltin_connective, bind_apply, search]
  rfl

end Meaning

/-! ## Trees -/

namespace Node

/-- The connective over members that are run in some way. -/
def connect (stop : Bool) (context : EvaluationContext) (run : Node → Check Operand)
    (members : List Node) : Check Operand :=
  Meaning.ofBuiltin context (.connective stop) (members.map run)

/-- A tree makes itself known, and then it is evaluated. -/
def evaluateTold (meaning : Meaning) (context : EvaluationContext) (tree : Node) :
    Check Operand := do
  Check.sight (.note "evaluated" (.node tree))
  tree.evaluate meaning context

theorem evaluate_connective (stop : Bool) (meaning : Meaning) (context : EvaluationContext)
    (members : List Node) : (call (.builtin (.connective stop)) members).evaluate meaning context =
      connect stop context (evaluate meaning context) members := by
  rw [evaluate, evaluateAll_eq_map]
  rfl

theorem connect_flat (stop : Bool) (context : EvaluationContext) (run : Node → Check Operand)
    (xs ys zs : List Node) : Meaning.ofBuiltin context (.connective stop)
        (xs.map run ++ [connect stop context run ys] ++ zs.map run) =
      connect stop context run (xs ++ ys ++ zs) := by
  unfold connect
  rw [Meaning.ofBuiltin_flat, List.map_append, List.map_append]

/-- A connective among the members of one of its own kind may give way to its
members, in whatever way they are run: as in evaluation or told. Where the
members up to `f` have settled the answer it is given, in the surroundings that
`f` left, whatever stands after `f`: trees, or other computations in their place. -/
theorem connective_flattens_and_settles (stop : Bool) (meaning : Meaning)
    (context : EvaluationContext) (xs ys zs : List Node) (f : Node) (s s' s'' : Surroundings) :
    (∀ members, (call (.builtin (.connective stop)) members).evaluate meaning context =
      connect stop context (evaluate meaning context) members) ∧
    (call (.builtin (.connective stop))
        (xs ++ [call (.builtin (.connective stop)) ys] ++ zs)).evaluate meaning context =
      (call (.builtin (.connective stop)) (xs ++ ys ++ zs)).evaluate meaning context ∧
    ∀ run : Node → Check Operand,
      Meaning.ofBuiltin context (.connective stop)
          (xs.map run ++ [connect stop context run ys] ++ zs.map run) =
        connect stop context run (xs ++ ys ++ zs) ∧
      (Arguments.HaveTruth (!stop) (xs.map run) s s' → Check.HasTruth stop (run f) s' s'' →
        connect stop context run (xs ++ [f] ++ zs) s = .ok (Meaning.answer stop) s'' ∧
        ∀ rest : Arguments, Meaning.ofBuiltin context (.connective stop)
          (xs.map run ++ [run f] ++ rest) s = .ok (Meaning.answer stop) s'') := by
  refine ⟨evaluate_connective stop meaning context, ?_, fun run => ⟨connect_flat .., ?_⟩⟩
  · have nested : (xs ++ [call (.builtin (.connective stop)) ys] ++ zs).map
        (evaluate meaning context) = xs.map (evaluate meaning context) ++
          [connect stop context (evaluate meaning context) ys] ++
            zs.map (evaluate meaning context) := by
      rw [List.map_append, List.map_append, List.map_singleton, evaluate_connective]
    rw [evaluate_connective, evaluate_connective, ← connect_flat stop context _ xs ys zs, ← nested]
    rfl
  · intro before settles
    have settled := Meaning.ofBuiltin_settled before settles context
    refine ⟨?_, settled⟩
    unfold connect
    rw [List.map_append, List.map_append]
    exact settled (zs.map run)

/-- A false member after a true one, told: the draw after it is not made. -/
theorem connective_flattens_and_settles_told :
    let meaning : Meaning := fun _ _ => pure (.fresh .null)
    let context : EvaluationContext := ⟨none, .emptyRecord⟩
    let told (tree : Node) : Sighting := .note "evaluated" (.node tree)
    let s : Surroundings := ⟨fun _ => .int 0, 0, .int 0, [], []⟩
    let yes : Node := .constant (.text "pro")
    let no : Node := .constant (.text "")
    let s' : Surroundings := { s with sightings := [told yes] }
    let s'' : Surroundings := { s with sightings := [told yes, told no] }
    let draws : Node := .call (.builtin .random) [.constant (.number (.int 10))]
    Arguments.HaveTruth true ([yes].map (evaluateTold meaning context)) s s' ∧
      Check.HasTruth false (evaluateTold meaning context no) s' s'' ∧
      connect false context (evaluateTold meaning context) ([yes] ++ [no] ++ [draws]) s =
        .ok (Meaning.answer false) s'' := by
  intro meaning context told s yes no s' s'' draws
  have before : Arguments.HaveTruth true ([yes].map (evaluateTold meaning context)) s s' :=
    .cons ⟨.fresh (.text "pro"), rfl, rfl⟩ (.nil s')
  have settles : Check.HasTruth false (evaluateTold meaning context no) s' s'' :=
    ⟨.fresh (.text ""), rfl, rfl⟩
  have laws := connective_flattens_and_settles false meaning context [yes] [] [draws] no s s' s''
  exact ⟨before, settles, ((laws.2.2 (evaluateTold meaning context)).2 before settles).1⟩

end Node

end FeatureGates
