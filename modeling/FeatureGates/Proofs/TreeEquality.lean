import FeatureGates.Proofs.Comparing
import FeatureGates.Proofs.Trees

/-!
# Equality of trees

Two trees are equal where they agree place by place: at the end of every path
of argument places either both have a node or neither has, and the two nodes are
strictly equal leaves or nodes of one operator (`Node.equals_iff_at?`). That is
the only induction over trees here. Whatever holds of agreement at one place
holds of equality, so that equality is symmetric and transitive. It is not
reflexive: NaN at a leaf does not even agree with itself.

All nodes of the clock are equal as far as they take no arguments, which is so
of those that can be built (`Node.equals_now`).
-/

namespace FeatureGates

/-! ## Leaves -/

namespace Scalar

variable {x y z : Scalar}

theorem strictEquals_symm (h : x.strictEquals y = true) : y.strictEquals x = true := by
  obtain ⟨i, left, right⟩ := (strictEquals_iff x y).1 h
  exact (strictEquals_iff y x).2 ⟨i, right, left⟩

theorem strictEquals_trans (h : x.strictEquals y = true) (h' : y.strictEquals z = true) :
    x.strictEquals z = true := by
  obtain ⟨i, first, middle⟩ := (strictEquals_iff x y).1 h
  obtain ⟨j, middle', last⟩ := (strictEquals_iff y z).1 h'
  obtain rfl : i = j := Option.some.inj (middle.symm.trans middle')
  exact (strictEquals_iff x z).2 ⟨i, first, last⟩

end Scalar

namespace Node

/-! ## Places -/

/-- The node at the end of a path of argument places, which are counted from nought. -/
def at? (tree : Node) : List Nat → Option Node
  | [] => some tree
  | place :: path => tree.args[place]?.bind fun arg => arg.at? path

/-- Leaves that are strictly equal, or nodes of one operator. -/
def Agrees : Node → Node → Prop
  | .constant x, .constant y => x.strictEquals y = true
  | .call f _, .call g _ => f = g
  | _, _ => False

/-- The two have a node at the same paths, and nodes that agree. -/
def AgreesThroughout (s t : Node) : Prop :=
  ∀ path, Option.Rel Agrees (s.at? path) (t.at? path)

theorem Agrees.symm {s t : Node} (h : s.Agrees t) : t.Agrees s := by
  cases s <;> cases t
  case constant.constant => exact Scalar.strictEquals_symm h
  case call.call => exact Eq.symm h
  all_goals cases h

theorem Agrees.trans {s t u : Node} (h : s.Agrees t) (h' : t.Agrees u) : s.Agrees u := by
  cases t with
  | constant y =>
    cases s with
    | call => exact h.elim
    | constant x =>
      cases u with
      | call => exact h'.elim
      | constant z => exact Scalar.strictEquals_trans h h'
  | call g ys =>
    cases s with
    | constant => exact h.elim
    | call f xs =>
      cases u with
      | constant => exact h'.elim
      | call k zs => exact Eq.trans h h'

theorem AgreesThroughout.symm {s t : Node} (h : s.AgreesThroughout t) :
    t.AgreesThroughout s := by
  intro path
  have both := h path
  revert both
  generalize s.at? path = a, t.at? path = b
  rintro (agree | _)
  · exact .some agree.symm
  · exact .none

theorem AgreesThroughout.trans {s t u : Node} (h : s.AgreesThroughout t)
    (h' : t.AgreesThroughout u) : s.AgreesThroughout u := by
  intro path
  have first := h path
  have second := h' path
  revert first second
  generalize s.at? path = a, t.at? path = b, u.at? path = c
  rintro (agree | _) (agree' | _)
  · exact .some (agree.trans agree')
  · exact .none

/-- A path leads to the node itself or on through one of its arguments. -/
theorem agreesThroughout_iff {s t : Node} : s.AgreesThroughout t ↔ s.Agrees t ∧
    ∀ (place : Nat) (path : List Nat), Option.Rel Agrees
      (s.args[place]?.bind fun arg => arg.at? path)
      (t.args[place]?.bind fun arg => arg.at? path) := by
  constructor
  · intro h
    have root : Option.Rel Agrees (some s) (some t) := h []
    cases root with
    | some agree => exact ⟨agree, fun place path => h (place :: path)⟩
  · rintro ⟨agree, args⟩ path
    cases path with
    | nil => exact .some agree
    | cons place path => exact args place path

/-! ## Equality -/

mutual

/-- Trees are equal where they agree place by place. -/
theorem equals_iff_at? : (s t : Node) → (s.equals t = true ↔ s.AgreesThroughout t)
  | .constant x, .constant y => by
    rw [equals, agreesThroughout_iff]
    exact ⟨fun same => ⟨same, fun _ _ => .none⟩, fun h => h.1⟩
  | .call f xs, .call g ys => by
    rw [equals, Bool.and_eq_true, decide_eq_true_eq, equalsAll_iff_at? xs ys, agreesThroughout_iff]
    exact Iff.rfl
  | .constant x, .call g ys =>
    iff_of_false Bool.false_ne_true fun h => (agreesThroughout_iff.1 h).1.elim
  | .call f xs, .constant y =>
    iff_of_false Bool.false_ne_true fun h => (agreesThroughout_iff.1 h).1.elim

theorem equalsAll_iff_at? : (ss ts : List Node) → (equalsAll ss ts = true ↔
    ∀ (place : Nat) (path : List Nat), Option.Rel Agrees
      (ss[place]?.bind fun arg => arg.at? path) (ts[place]?.bind fun arg => arg.at? path))
  | [], [] => iff_of_true rfl fun _ _ => .none
  | s :: ss, t :: ts => by
    rw [equalsAll, Bool.and_eq_true, equals_iff_at? s t, equalsAll_iff_at? ss ts]
    constructor
    · rintro ⟨first, others⟩ (_ | place) path
      · exact first path
      · exact others place path
    · intro h
      exact ⟨h 0, fun place => h (place + 1)⟩
  | [], t :: ts => iff_of_false Bool.false_ne_true fun h => nomatch h 0 []
  | s :: ss, [] => iff_of_false Bool.false_ne_true fun h => nomatch h 0 []

end

theorem equals_symm {s t : Node} (h : s.equals t = true) : t.equals s = true :=
  (equals_iff_at? t s).2 ((equals_iff_at? s t).1 h).symm

theorem equals_trans {s t u : Node} (h : s.equals t = true) (h' : t.equals u = true) :
    s.equals u = true :=
  (equals_iff_at? s u).2 (((equals_iff_at? s t).1 h).trans ((equals_iff_at? t u).1 h'))

/-- Nodes of the clock have no arguments to differ in. -/
theorem equals_now {registry : Registry} {xs : List Node} {t : Node}
    (known : (call (.builtin .now) xs).Known registry) (known' : t.Known registry) :
    (call (.builtin .now) xs).equals t = true ↔ ∃ ys, t = call (.builtin .now) ys := by
  have bare {args : List Node} (h : (call (.builtin .now) args).Known registry) : args = [] := by
    have most : Arity.admits ⟨0, some 0⟩ args.length = true := h.2.1
    simpa [Arity.admits] using most
  constructor
  · intro same
    cases t with
    | constant y => cases same
    | call g ys =>
      have operators : (call (.builtin .now) xs).Agrees (call g ys) :=
        (agreesThroughout_iff.1 ((equals_iff_at? _ _).1 same)).1
      exact ⟨ys, congrArg (call · ys) operators.symm⟩
  · rintro ⟨ys, rfl⟩
    rw [bare known, bare known']
    rfl

/-- What equality of three trees comes to. -/
structure EqualsLawfully (s t u : Node) : Prop where
  symm : s.equals t = true → t.equals s = true
  trans : s.equals t = true → t.equals u = true → s.equals u = true
  /-- Equal trees have one shape, one operator at each place, and strictly equal leaves, and
  trees that have these are equal. -/
  places : s.equals t = true ↔ s.AgreesThroughout t
  /-- A node of the clock is equal to whatever node of the clock can be built. -/
  now (registry : Registry) (xs : List Node) : s = call (.builtin .now) xs →
    s.Known registry → t.Known registry → (s.equals t = true ↔ ∃ ys, t = call (.builtin .now) ys)
  /-- Wrapped trees are equal as the trees are, whichever of them is asked. -/
  wrapped : ((Value.wrapped (.expression s)).equals (.wrapped (.expression t)) = true ↔
    s.equals t = true) ∧
      ((Value.wrapped (.expression t)).equals (.wrapped (.expression s)) = true ↔
        s.equals t = true)

/-- Equality of trees is a partial equivalence, and goes by what stands at each place. -/
theorem equals_lawful (s t u : Node) : EqualsLawfully s t u where
  symm := equals_symm
  trans := equals_trans
  places := equals_iff_at? s t
  now registry xs clock known known' := by
    subst clock
    exact equals_now known known'
  wrapped := by
    have held (a b : Node) : (Value.wrapped (.expression a)).equals (.wrapped (.expression b)) =
        a.equals b := by
      simp only [Value.equals, Value.equalsWrapped]
    rw [held, held]
    exact ⟨Iff.rfl, equals_symm, equals_symm⟩

/-- Leaves are equal by exact value, and a truth value is no number. -/
example :
    (call (.builtin .any) [.constant (.number (.int 1))]).equals
        (call (.builtin .any) [.constant (.number (.float (.ofDecimal false 1 0)))]) = true ∧
      (call (.builtin .any) [.constant (.number (.int 1))]).equals
        (call (.builtin .any) [.constant (.bool true)]) = false := by
  decide +kernel

end Node

end FeatureGates
