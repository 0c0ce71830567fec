import FeatureGates.Proofs.Respecting
import FeatureGates.Proofs.Signs
import Mathlib.Data.List.Forall2

/-!
# What a tree depends on

A tree whose properties are named by constants spells out what it looks at:
the properties it names, the draws if it has a `Random`, the clock if it has
a `Now`, and the name of the feature if it has a `PercentageOfActors`. Two
evaluations that share this much end alike (`Node.evaluate_depends`),
whatever else differs: the other properties, the draws or the clock of a
tree that does not use them.

The two runs are followed side by side. Their arguments concur
(`Check.Concurs`), and an operator makes of arguments that concur checks
that do. Properties that are equal may still be zeros of different sign,
which no operator can tell apart by a single look. But a duration asks its
argument for the number and, if that is NaN, once more for its text, in
which a sign would show. So of zeros that differ more is claimed
(`Operand.Tally`): their checks never give anything else, and are not NaN at
one time and zero at another.
-/

namespace FeatureGates

variable {α β γ : Type} {loose : Prop} {R : Surroundings → Surroundings → Prop}

/-! Powers of natural numbers are the ones of core. -/

attribute [local instance (2000)] instPowNat

/-! The unit is not to be computed where terms are compared. -/

attribute [local irreducible] unitsPerOne

/-! ## Zeros of either sign -/

namespace Number

/-- The floating-point zero of a sign. -/
def signedZero (negative : Bool) : Number := .float (.finite negative .zero)

theorem position?_signedZero (negative : Bool) :
    (signedZero negative).position? = some (.at 0) := by
  cases negative <;> rfl

theorem lt_of_positions {a a' b b' : Number} (ha : a.position? = a'.position?)
    (hb : b.position? = b'.position?) : a.lt b = a'.lt b' := by
  unfold lt
  rw [ha, hb]

theorem le_of_positions {a a' b b' : Number} (ha : a.position? = a'.position?)
    (hb : b.position? = b'.position?) : a.le b = a'.le b' := by
  unfold le
  rw [ha, hb]

theorem eq_of_positions {a a' b b' : Number} (ha : a.position? = a'.position?)
    (hb : b.position? = b'.position?) : a.eq b = a'.eq b' := by
  unfold eq
  rw [ha, hb]

theorem position?_zero : position? (.int 0) = some (.at 0) := by
  show some (Position.at (0 * (unitsPerOne : Int))) = _
  rw [Int.zero_mul]

theorem isZero_signedZero (negative : Bool) : (signedZero negative).isZero = true := by
  unfold isZero eq
  rw [position?_signedZero, position?_zero]
  rfl

theorem signedZero_le_one (negative : Bool) : (signedZero negative).le (.int 1) = true := by
  have places := (position?_signedZero negative).trans position?_zero.symm
  exact (le_of_positions places rfl).trans (le_natCast 1)

theorem toText_signedZero (negative : Bool) : (signedZero negative).toText = .ok "0" := by
  have whole : Magnitude.zero.units % unitsPerOne = 0 ∧
      Magnitude.zero.units < 10 ^ wholeDigits * unitsPerOne :=
    ⟨Nat.zero_mod _, Nat.mul_pos (Nat.pow_pos (by decide)) unitsPerOne_pos⟩
  have none : ((Magnitude.zero.units : Int) / unitsPerOne) = 0 := Int.zero_ediv _
  simp only [signedZero, toText, if_pos whole, none]
  cases negative <;> rfl

/-- A zero goes on to be one when it is multiplied by a whole number. -/
theorem signedZero_mul (negative : Bool) (k : Nat) :
    (signedZero negative).mul (.int k) =
      (toBinary64 (.int k)).map fun _ => signedZero negative := by
  simp only [signedZero, mul]
  cases near : toBinary64 (.int k) with
  | error failure => rfl
  | ok x =>
    obtain ⟨m, rfl⟩ := toBinary64_natCast near
    have units : Magnitude.zero.units * m.units = 0 := Nat.zero_mul _
    have product : (Binary64.finite negative .zero).mul (.finite false m) =
        .finite negative .zero := by
      rw [Binary64.mul, units, Bool.bne_false, Binary64.ofUnits_zero negative unitsPerOne_pos]
    exact congrArg (fun y => Except.ok (Number.float y)) product

end Number

theorem Timestamp.read_signedZero (negative : Bool) :
    read (.number (.signedZero negative)) = .ok (.int 0) := by
  have quotient : (Number.signedZero negative).divNat 1000 = .ok (.finite negative .zero) := by
    show Except.ok (Binary64.ofUnits negative 0 1000) = _
    rw [Binary64.ofUnits_zero negative (by decide)]
  show ofMilliseconds (.signedZero negative) = _
  unfold ofMilliseconds
  rw [quotient]
  cases negative <;> rfl

/-! ## Values alike but for the signs of zeros -/

/-- The same value, or, if signs of zeros do not count, two zeros. -/
inductive Value.Akin (loose : Prop) : Value → Value → Prop
  | same (v : Value) : Akin loose v v
  | zeros (h : loose) (m n : Bool) :
      Akin loose (.number (.signedZero m)) (.number (.signedZero n))

/-- Operands from one origin with values that are akin. -/
structure Operand.Akin (loose : Prop) (a b : Operand) : Prop where
  origin : a.origin = b.origin
  value : a.value.Akin loose b.value

namespace Value.Akin

variable {v w : Value}

theorem congr (h : v.Akin loose w) {f : Value → β}
    (blind : ∀ m n, f (.number (.signedZero m)) = f (.number (.signedZero n))) : f v = f w := by
  cases h with
  | same => rfl
  | zeros _ m n => exact blind m n

theorem isNull (h : v.Akin loose w) : v.isNull = w.isNull := h.congr fun _ _ => rfl

theorem truthy (h : v.Akin loose w) : v.truthy = w.truthy :=
  h.congr fun m n => by
    simp only [Value.truthy, Number.isZero_signedZero, if_true]

end Value.Akin

namespace Operand

/-- Whether two operands are strictly equal does not depend on the signs of zeros. -/
theorem strictEquals_akin {a a' b b' : Operand} (ha : a.Akin loose a') (hb : b.Akin loose b') :
    a.strictEquals b = a'.strictEquals b' := by
  obtain ⟨v, o⟩ := a
  obtain ⟨v', o'⟩ := a'
  obtain ⟨w, p⟩ := b
  obtain ⟨w', p'⟩ := b'
  obtain ⟨rfl, akin⟩ := ha
  obtain ⟨rfl, akin'⟩ := hb
  have left := akin.congr (f := fun v => (⟨v, o⟩ : Operand).strictEquals ⟨w, p⟩) fun m n => by
    cases w with
    | scalar y =>
      cases y with
      | number k => exact Number.eq_of_positions (by simp only [Number.position?_signedZero]) rfl
      | _ => rfl
    | _ => rfl
  have right := akin'.congr (f := fun w => (⟨v', o⟩ : Operand).strictEquals ⟨w, p⟩) fun m n => by
    cases v' with
    | scalar y =>
      cases y with
      | number k => exact Number.eq_of_positions rfl (by simp only [Number.position?_signedZero])
      | _ => rfl
    | _ => rfl
  exact left.trans right

end Operand

theorem Meaning.ordering_akin {order : Number → Number → Bool}
    (placed : ∀ {a a' b b' : Number}, a.position? = a'.position? → b.position? = b'.position? →
      order a b = order a' b') {a a' b b' : Operand} (ha : a.Akin loose a')
    (hb : b.Akin loose b') : ordering order a b = ordering order a' b' := by
  obtain ⟨v, o⟩ := a
  obtain ⟨v', o'⟩ := a'
  obtain ⟨w, p⟩ := b
  obtain ⟨w', p'⟩ := b'
  obtain ⟨rfl, akin⟩ := ha
  obtain ⟨rfl, akin'⟩ := hb
  have left := akin.congr (f := fun v => ordering order ⟨v, o⟩ ⟨w, p⟩) fun m n => by
    cases w with
    | scalar y =>
      cases y with
      | number k => exact placed (by simp only [Number.position?_signedZero]) rfl
      | _ => rfl
    | _ => rfl
  have right := akin'.congr (f := fun w => ordering order ⟨v', o⟩ ⟨w, p⟩) fun m n => by
    cases v' with
    | scalar y =>
      cases y with
      | number k => exact placed rfl (by simp only [Number.position?_signedZero])
      | _ => rfl
    | _ => rfl
  exact left.trans right

/-! ## Checks that concur -/

/-- Whatever the check gives, it is this value. -/
def Check.Gives (check : Check Operand) (value : Value) : Prop :=
  ∀ s a t, check s = .ok a t → a.value = value

namespace Check.Gives

variable {v w : Value}

theorem pure (a : Operand) : Gives (Pure.pure a) a.value := by
  rintro s _ t ⟨⟩
  rfl

theorem throw (failure : Failure) : Gives (MonadExcept.throw failure) v := by
  rintro s a t ⟨⟩

/-- What follows gives a value if it does for all that the first check has given. -/
theorem of_bind {check : Check α} {f : α → Check Operand}
    (h : ∀ s a t, check s = .ok a t → (f a).Gives v) : (check >>= f).Gives v := by
  intro s a t ran
  rw [bind_apply] at ran
  cases first : check s with
  | ok b u =>
    rw [first] at ran
    exact h s b u first u a t ran
  | error failure u =>
    rw [first] at ran
    cases ran

theorem bind {check : Check Operand} {f : Operand → Check Operand} (h : check.Gives v)
    (hf : ∀ a, a.value = v → (f a).Gives w) : (check >>= f).Gives w :=
  of_bind fun s a t gave => hf a (h s a t gave)

end Check.Gives

/-- Two checks give what they give from some surroundings. -/
theorem Check.matches_given {x : Check α} {y : Check β} {B : α → β → Prop} (h : Matches R B x y) :
    Matches R (fun a b => B a b ∧ ∃ s t, x s = .ok a t) x y := by
  intro s t related
  have ends := h s t related
  rcases ends.elim with ⟨a, s', b, t', ran, ran', held⟩ | ⟨failure, s', t', ran, ran', held⟩
  · rw [ran, ran']
    exact ⟨⟨held.1, s, s', ran⟩, held.2⟩
  · rw [ran, ran']
    exact ⟨rfl, held⟩

/-- Operands that two checks give: the same ones, or, if signs of zeros do not count, two zeros,
and then the checks give nothing else. -/
inductive Operand.Tally (loose : Prop) (x y : Check Operand) : Operand → Operand → Prop
  | same (a : Operand) : Tally loose x y a a
  | zeros (h : loose) (origin : Origin) (m n : Bool) :
      x.Gives (.number (.signedZero m)) → y.Gives (.number (.signedZero n)) →
        Tally loose x y ⟨.number (.signedZero m), origin⟩ ⟨.number (.signedZero n), origin⟩

theorem Operand.Tally.akin {x y : Check Operand} {a b : Operand} (h : Tally loose x y a b) :
    a.Akin loose b := by
  cases h with
  | same => exact ⟨rfl, .same _⟩
  | zeros h origin m n => exact ⟨rfl, .zeros h m n⟩

/-- From related surroundings both checks fail alike or give operands that tally. -/
def Check.Concurs (loose : Prop) (R : Surroundings → Surroundings → Prop) (x y : Check Operand) :
    Prop := Matches R (Operand.Tally loose x y) x y

/-- Checks that give the same concur. -/
theorem Check.Concurs.of_eq {x y : Check Operand} (h : Matches R Eq x y) : Concurs loose R x y :=
  h.mono fun a _ same => same ▸ .same a

namespace Meaning

variable {A : β → γ → Prop} {args args' : Arguments} {c d : EvaluationContext}

/-- Arguments that concur one by one. -/
abbrev Concur (loose : Prop) (R : Surroundings → Surroundings → Prop) (args args' : Arguments) :
    Prop := List.Forall₂ (Check.Concurs loose R) args args'

theorem concurs_argument (h : Concur loose R args args') (index : Nat) :
    Check.Concurs loose R (argument args index) (argument args' index) := by
  have missing : Check.Concurs loose R (pure (.fresh .null)) (pure (.fresh .null)) :=
    .of_eq (.pure rfl)
  induction h generalizing index with
  | nil => exact missing
  | cons first _ ih =>
    cases index with
    | zero => exact first
    | succ index => exact ih index

theorem matches_except (result : Except Failure α) {f : α → Check β} {g : α → Check γ}
    (same : ∀ a, Matches R A (f a) (g a)) :
    Matches R A (Check.ofExcept result >>= f) (Check.ofExcept result >>= g) :=
  Matches.bind (Check.Respects.ofExcept result) fun a _ alike => alike ▸ same a

/-- What is made of an argument and does not depend on the sign of a zero. -/
theorem matches_value (h : Concur loose R args args') (index : Nat) {f : Value → Check β}
    {g : Value → Check γ}
    (blind : ∀ m n, f (.number (.signedZero m)) = f (.number (.signedZero n)))
    (same : ∀ v, Matches R A (f v) (g v)) :
    Matches R A (argumentValue args index >>= f) (argumentValue args' index >>= g) := by
  have values : Matches R (Value.Akin loose) (argumentValue args index)
      (argumentValue args' index) :=
    (concurs_argument h index).bind fun a b tally => .pure tally.akin.value
  refine values.bind fun v w akin => ?_
  rw [akin.congr blind]
  exact same w

/-- What is made of an argument as a number and does not depend on the sign of a zero. -/
theorem matches_number (h : Concur loose R args args') (index : Nat) {f : Number → Check β}
    {g : Number → Check γ} (blind : ∀ m n, f (.signedZero m) = f (.signedZero n))
    (same : ∀ n, Matches R A (f n) (g n)) :
    Matches R A (argumentNumber args index >>= f) (argumentNumber args' index >>= g) := by
  have zero (m : Bool) : (Check.ofExcept (Value.number (.signedZero m)).toNumber >>= f) =
      f (.signedZero m) := pure_bind _ _
  simp only [argumentNumber, bind_assoc]
  refine matches_value h index (fun m n => ?_) fun v => ?_
  · rw [zero, zero, blind m n]
  · exact matches_except v.toNumber same

theorem matches_anyIs (h : Concur loose R args args') (stop : Bool) :
    Matches R Eq (anyIs stop args) (anyIs stop args') := by
  induction h with
  | nil => exact .pure rfl
  | cons first _ ih =>
    unfold anyIs
    refine first.bind fun a b tally => ?_
    rw [tally.akin.value.truthy]
    refine matches_except _ fun holds => ?_
    split
    · exact .pure rfl
    · exact ih

theorem matches_compare (h : Concur loose R args args') {relation : Operand → Operand → Bool}
    (blind : ∀ {a a' b b' : Operand}, a.Akin loose a' → b.Akin loose b' →
      relation a b = relation a' b') :
    Matches R Eq (compare args relation) (compare args' relation) := by
  refine (concurs_argument h 0).bind fun a a' left => ?_
  refine (concurs_argument h 1).bind fun b b' right => .pure ?_
  rw [left.akin.value.isNull, right.akin.value.isNull, blind left.akin right.akin]

theorem matches_toText (h : Concur loose R args args') :
    Matches R Eq (toText args) (toText args') := by
  refine matches_value h 0 (fun m n => ?_) fun v => ?_
  · simp only [textOr, Number.toText_signedZero]
  · split
    · exact .pure rfl
    · exact matches_except _ fun _ => .pure rfl

theorem matches_random (draw : Check.Respects R Check.draw) (h : Concur loose R args args') :
    Matches R Eq (random args) (random args') := by
  refine matches_number h 0 (fun m n => ?_) fun maximum => ?_
  · have none (m : Bool) : (do
        if !(← Check.ofExcept (Number.signedZero m).checkFinite) ||
          (Number.signedZero m).le (.int 1) then return .fresh (.int 0)
        else
          let drawn ← Check.draw
          let scaled ← Check.ofExcept (drawn.mul (.signedZero m))
          return .fresh (.int (← Check.ofExcept scaled.floor)) : Check Operand) =
        pure (.fresh (.int 0)) := by
      simp only [Number.signedZero_le_one, Bool.or_true, if_true]
      rfl
    rw [none, none]
  · refine matches_except _ fun finite => ?_
    split
    · exact .pure rfl
    · refine draw.bind fun drawn => ?_
      exact (Check.Respects.ofExcept _).bind fun _ => (Check.Respects.ofExcept _).bind fun _ =>
        .pure _

theorem matches_percentage (h : Concur loose R args args') :
    Matches R Eq (percentage args) (percentage args') := by
  have places (m n : Bool) := (Number.position?_signedZero m).trans
    (Number.position?_signedZero n).symm
  refine matches_number h 0 (fun m n => ?_) fun value => ?_
  · simp only [Number.lt_of_positions (places m n) rfl]
  · refine matches_number h 1 (fun m n => ?_) fun percentage => .pure rfl
    rw [Number.lt_of_positions rfl (places m n)]

theorem matches_percentageOfActors (feature : c.feature = d.feature)
    (h : Concur loose R args args') :
    Matches R Eq (percentageOfActors c args) (percentageOfActors d args') := by
  refine matches_value h 0 (fun m n => ?_) fun value => ?_
  · simp only [textOr, Number.toText_signedZero]
  · refine matches_except _ fun id => ?_
    refine matches_number h 1 (fun m n => ?_) fun percentage => ?_
    · simp only [Number.isZero_signedZero, Bool.or_true, if_true]
    · rw [feature]
      split
      · exact .pure rfl
      · refine (Check.Respects.ofExcept _).bind fun nan => ?_
        split
        · exact .pure _
        · exact (Check.Respects.ofExcept _).bind fun _ => .pure _

theorem matches_now (now : Check.Respects R Check.now) : Matches R Eq Meaning.now Meaning.now :=
  Check.Respects.bind now fun _ => (Check.Respects.ofExcept _).bind fun _ => .pure _

theorem matches_boolean (h : Concur loose R args args') :
    Matches R Eq (ofBuiltin c .boolean args) (ofBuiltin d .boolean args') := by
  refine matches_value h 0 (fun m n => ?_) fun v => matches_except _ fun _ => Matches.pure rfl
  simp only [Value.truthy, Number.isZero_signedZero, if_true]

theorem matches_time (h : Concur loose R args args') :
    Matches R Eq (ofBuiltin c .time args) (ofBuiltin d .time args') := by
  refine matches_value h 0 (fun m n => ?_) fun v => matches_except _ fun _ => Matches.pure rfl
  rw [Timestamp.read_signedZero, Timestamp.read_signedZero]

theorem argumentNumber_eq (args : Arguments) (index : Nat) : argumentNumber args index =
    argument args index >>= fun a => Check.ofExcept a.value.toNumber := by
  simp only [argumentNumber, argumentValue, bind_assoc, pure_bind]

/-- The number of a zero is the zero. -/
theorem concurs_toNumber (h : Concur loose R args args') :
    Check.Concurs loose R (toNumber args) (toNumber args') := by
  have unfolded (args : Arguments) : toNumber args = argument args 0 >>= fun a => do
      let n ← Check.ofExcept a.value.toNumber
      if ← Check.ofExcept n.checkNaN then return .fresh (.int 0)
      else return .fresh (.number n) := by
    simp only [toNumber, argumentNumber_eq, bind_assoc]
  have gives {args : Arguments} {m : Bool}
      (zero : (argument args 0).Gives (.number (.signedZero m))) :
      (toNumber args).Gives (.number (.signedZero m)) := by
    rw [unfolded]
    refine zero.bind fun a held => ?_
    rw [held]
    exact .pure (.fresh _)
  rw [Check.Concurs, unfolded args, unfolded args']
  refine (concurs_argument h 0).bind fun a b tally => ?_
  rw [← unfolded args, ← unfolded args']
  cases tally with
  | same =>
    refine matches_except _ fun n => matches_except _ fun nan => ?_
    split <;> exact .pure (.same _)
  | zeros counts origin m n left right =>
    exact .pure (.zeros counts .fresh m n (gives left) (gives right))

/-- What a duration makes of the value of its number. -/
def durationOf (args : Arguments) (value : Value) : Check Operand := do
  let scalar ← Check.ofExcept value.toNumber
  let unit := unitName (← Check.ofExcept (textOr "second" (← argumentValue args 1)))
  match secondsPer.lookup unit with
  | none => throw (.unknownDurationUnit unit)
  | some seconds =>
    if ← Check.ofExcept scalar.checkNaN then
      throw (.durationNotANumber (← Check.ofExcept (← argumentValue args 0).written))
    else return .fresh (.number (← Check.ofExcept (scalar.mul (.int seconds))))

/-! The table of units is not to be computed. -/

attribute [local irreducible] secondsPer

theorem duration_eq (args : Arguments) :
    duration args = argument args 0 >>= fun a => durationOf args a.value := by
  unfold duration
  rw [argumentNumber_eq]
  exact bind_assoc _ _ _

/-- So many units of nothing are nothing. -/
theorem durationOf_signedZero (args : Arguments) (m : Bool) :
    durationOf args (.number (.signedZero m)) = (do
      let unit := unitName (← Check.ofExcept (textOr "second" (← argumentValue args 1)))
      match secondsPer.lookup unit with
      | none => throw (.unknownDurationUnit unit)
      | some seconds =>
        let _ ← Check.ofExcept (Number.toBinary64 (.int seconds))
        return .fresh (.number (.signedZero m))) := by
  have number : Check.ofExcept (Value.number (.signedZero m)).toNumber =
      (pure (.signedZero m) : Check Number) := rfl
  have proper : Check.ofExcept (Number.signedZero m).checkNaN = (pure false : Check Bool) := rfl
  unfold durationOf
  simp only [number, proper, pure_bind, Bool.false_eq_true, if_false, Number.signedZero_mul]
  refine bind_congr fun value => bind_congr fun text => ?_
  split
  · rfl
  · rename_i seconds _
    cases Number.toBinary64 (.int seconds) <;> rfl

theorem gives_duration {m : Bool} (h : (argument args 0).Gives (.number (.signedZero m))) :
    (duration args).Gives (.number (.signedZero m)) := by
  rw [duration_eq]
  refine h.bind fun a held => ?_
  rw [held, durationOf_signedZero]
  refine .of_bind fun _ _ _ _ => .of_bind fun _ _ _ _ => ?_
  dsimp only
  split
  · exact .throw _
  · exact .of_bind fun _ _ _ _ => .pure (.fresh _)

/-- Asked for its number again, an argument that is none gives no zero. -/
theorem concurs_duration (h : Concur loose R args args') :
    Check.Concurs loose R (duration args) (duration args') := by
  have units {f g : String → Check Operand} {A : Operand → Operand → Prop}
      (same : ∀ unit, Matches R A (f unit) (g unit)) :
      Matches R A (do f (← Check.ofExcept (textOr "second" (← argumentValue args 1))))
        (do g (← Check.ofExcept (textOr "second" (← argumentValue args' 1)))) := by
    refine matches_value h 1 (fun m n => ?_) fun value => matches_except _ same
    simp only [textOr, Number.toText_signedZero]
  have both : Matches R (Operand.Tally loose (duration args) (duration args'))
      (argument args 0 >>= fun a => durationOf args a.value)
      (argument args' 0 >>= fun a => durationOf args' a.value) := by
    refine (Check.matches_given (concurs_argument h 0)).bind fun a b both => ?_
    obtain ⟨tally, s, t, gave⟩ := both
    cases tally with
    | zeros counts origin m n left right =>
      simp only [durationOf_signedZero]
      refine units fun unit => ?_
      split
      · exact Matches.throw _
      · rename_i seconds _
        generalize Number.toBinary64 (.int seconds) = near
        refine matches_except near fun _ => Matches.pure ?_
        exact .zeros counts .fresh m n (gives_duration left) (gives_duration right)
    | same =>
      unfold durationOf
      cases number : a.value.toNumber with
      | error failure => exact Matches.throw failure
      | ok scalar =>
        refine units fun unit => ?_
        dsimp only
        split
        · exact Matches.throw _
        · cases nan : scalar.checkNaN with
          | error failure => exact Matches.throw failure
          | ok b =>
            have told : Check.ofExcept (.ok b) = (pure b : Check Bool) := rfl
            simp only [told, pure_bind]
            cases b with
            | false =>
              exact matches_except _ fun p => Matches.pure (.same (.fresh (.number p)))
            | true =>
              have again : Matches R Eq (argumentValue args 0) (argumentValue args' 0) := by
                refine (concurs_argument h 0).bind fun _ _ tally => Matches.pure ?_
                cases tally with
                | same => rfl
                | zeros _ _ m n left _ =>
                  rw [left s a t gave] at number
                  cases number
                  cases nan
              refine again.bind fun v _ same => ?_
              subst same
              exact matches_except _ fun _ => Matches.throw _
  rw [Check.Concurs]
  simpa only [duration_eq] using both

/-- What an operator other than that for properties needs to have in common for its checks to
concur. -/
theorem concurs_ofBuiltin {operator : Builtin} (other : operator ≠ .property)
    (draw : operator = .random → Check.Respects R Check.draw)
    (now : operator = .now → Check.Respects R Check.now)
    (feature : operator = .percentageOfActors → c.feature = d.feature)
    (h : Concur loose R args args') :
    Check.Concurs loose R (ofBuiltin c operator args) (ofBuiltin d operator args') := by
  have truth {x y : Check Bool} (same : Matches R Eq x y) (f : Bool → Operand) :
      Check.Concurs loose R (x >>= fun b => pure (f b)) (y >>= fun b => pure (f b)) :=
    .of_eq (same.bind fun _ _ alike => .pure (alike ▸ rfl))
  cases operator with
  | all => exact truth (matches_anyIs h false) fun b => answer (!b)
  | any => exact truth (matches_anyIs h true) answer
  | boolean => exact .of_eq (matches_boolean h)
  | duration => exact concurs_duration h
  | equal => exact .of_eq (matches_compare h Operand.strictEquals_akin)
  | greaterThan =>
    exact .of_eq (matches_compare h (ordering_akin fun left right =>
      Number.lt_of_positions right left))
  | greaterThanOrEqualTo =>
    exact .of_eq (matches_compare h (ordering_akin fun left right =>
      Number.le_of_positions right left))
  | lessThan => exact .of_eq (matches_compare h (ordering_akin Number.lt_of_positions))
  | lessThanOrEqualTo => exact .of_eq (matches_compare h (ordering_akin Number.le_of_positions))
  | notEqual =>
    exact .of_eq (matches_compare h fun left right => by
      rw [Operand.strictEquals_akin left right])
  | now => exact .of_eq (matches_now (now rfl))
  | number => exact concurs_toNumber h
  | percentage => exact .of_eq (matches_percentage h)
  | percentageOfActors => exact .of_eq (matches_percentageOfActors (feature rfl) h)
  | property => exact absurd rfl other
  | random => exact .of_eq (matches_random (draw rfl) h)
  | string => exact .of_eq (matches_toText h)
  | time => exact .of_eq (matches_time h)

end Meaning

/-! ## What a tree looks at -/

namespace Node

mutual

/-- The operators are built in, and every property is named by a constant. -/
def isFixed : Node → Bool
  | .constant _ => true
  | .call (.builtin .property) [.constant _] => true
  | .call (.builtin .property) _ => false
  | .call (.builtin _) args => areFixed args
  | .call (.custom _) _ => false

def areFixed : List Node → Bool
  | [] => true
  | arg :: rest => isFixed arg && areFixed rest

end

mutual

/-- The names of the properties. What is neither a text nor a number names the empty one. -/
def keys : Node → List String
  | .constant _ => []
  | .call (.builtin .property) [.constant key] =>
    (Meaning.textOr "" (.scalar key)).toOption.toList
  | .call _ args => keysOfAll args

def keysOfAll : List Node → List String
  | [] => []
  | arg :: rest => keys arg ++ keysOfAll rest

end

mutual

/-- An operator occurs in the tree. -/
def uses (operator : Builtin) : Node → Bool
  | .constant _ => false
  | .call f args => f = .builtin operator || anyUses operator args

def anyUses (operator : Builtin) : List Node → Bool
  | [] => false
  | arg :: rest => uses operator arg || anyUses operator rest

end

end Node

/-- What two checks have in common, as far as it is used and named. -/
structure Node.Common (loose : Prop) (R : Surroundings → Surroundings → Prop)
    (c d : EvaluationContext) (uses : Builtin → Bool) (keys : List String) : Prop where
  draw : uses .random = true → Check.Respects R Check.draw
  now : uses .now = true → Check.Respects R Check.now
  feature : uses .percentageOfActors = true → c.feature = d.feature
  property : ∀ key ∈ keys, ∃ v w, c.properties.property key = .ok v ∧
    d.properties.property key = .ok w ∧ v.Akin loose w

namespace Node

variable {c d : EvaluationContext}

theorem Common.mono {uses uses' : Builtin → Bool} {keys keys' : List String}
    (h : Common loose R c d uses keys) (used : ∀ operator, uses' operator = true →
      uses operator = true) (named : ∀ key ∈ keys', key ∈ keys) :
    Common loose R c d uses' keys' where
  draw drawn := h.draw (used _ drawn)
  now seen := h.now (used _ seen)
  feature shared := h.feature (used _ shared)
  property key mem := h.property key (named key mem)

/-- A property that a constant names is one value. -/
theorem concurs_property (key : Scalar)
    (h : ∀ name ∈ (Meaning.textOr "" (.scalar key)).toOption.toList, ∃ v w,
      c.properties.property name = .ok v ∧ d.properties.property name = .ok w ∧ v.Akin loose w) :
    Check.Concurs loose R (Meaning.property c [pure (.fresh (.scalar key))])
      (Meaning.property d [pure (.fresh (.scalar key))]) := by
  have asked (c : EvaluationContext) : Meaning.property c [pure (.fresh (.scalar key))] = (do
      let name ← Check.ofExcept (Meaning.textOr "" (.scalar key))
      return ⟨← Check.ofExcept (c.properties.property name), .property name⟩) := rfl
  rw [Check.Concurs, asked c, asked d]
  cases named : Meaning.textOr "" (.scalar key) with
  | error failure => exact Matches.throw failure
  | ok name =>
    obtain ⟨v, w, left, right, akin⟩ := h name (by rw [named]; exact List.mem_singleton_self _)
    have told {α : Type} (a : α) : Check.ofExcept (.ok a) = (pure a : Check α) := rfl
    simp only [told, pure_bind, left, right]
    refine Matches.pure ?_
    cases akin with
    | same => exact .same _
    | zeros counts m n => exact .zeros counts _ m n (.pure _) (.pure _)

theorem exists_of_isFixed_property {args : List Node}
    (h : isFixed (.call (.builtin .property) args) = true) : ∃ key, args = [.constant key] := by
  cases args with
  | nil => cases h
  | cons arg rest =>
    cases rest with
    | cons => cases arg <;> cases h
    | nil =>
      cases arg with
      | constant key => exact ⟨key, rfl⟩
      | call => cases h

theorem isFixed_builtin {operator : Builtin} (other : operator ≠ .property) (args : List Node) :
    isFixed (.call (.builtin operator) args) = areFixed args := by
  cases operator with
  | property => exact absurd rfl other
  | _ => rfl

theorem keys_builtin {operator : Builtin} (other : operator ≠ .property) (args : List Node) :
    keys (.call (.builtin operator) args) = keysOfAll args := by
  cases operator with
  | property => exact absurd rfl other
  | _ => rfl

mutual

/-- A tree concurs with itself where the checks have in common what it uses and names. -/
theorem concurs_evaluate (meaning : Meaning) : ∀ tree : Node, tree.isFixed = true →
    Common loose R c d (fun operator => tree.uses operator) tree.keys →
      Check.Concurs loose R (tree.evaluate meaning c) (tree.evaluate meaning d)
  | .constant _, _, _ => Matches.pure (.same _)
  | .call (.builtin operator) args, fixed, common => by
    have own {f : Builtin} (same : operator = f) : uses f (.call (.builtin operator) args) =
        true := by
      rw [uses, same, decide_eq_true rfl, Bool.true_or]
    by_cases property : operator = .property
    · subst property
      obtain ⟨key, rfl⟩ := exists_of_isFixed_property fixed
      exact concurs_property key common.property
    · have args_fixed := (isFixed_builtin property args).symm.trans fixed
      have args_common : Common loose R c d (fun f => anyUses f args) (keysOfAll args) :=
        common.mono (fun f used => by rw [uses, used, Bool.or_true])
          (fun key mem => (keys_builtin property args).symm ▸ mem)
      exact Meaning.concurs_ofBuiltin property (fun same => common.draw (own same))
        (fun same => common.now (own same)) (fun same => common.feature (own same))
        (concur_evaluateAll meaning args args_fixed args_common)
  | .call (.custom _) _, fixed, _ => by
    simp only [isFixed] at fixed
    cases fixed

theorem concur_evaluateAll (meaning : Meaning) : ∀ args : List Node, areFixed args = true →
    Common loose R c d (fun operator => anyUses operator args) (keysOfAll args) →
      Meaning.Concur loose R (evaluateAll meaning c args) (evaluateAll meaning d args)
  | [], _, _ => .nil
  | arg :: rest, fixed, common => by
    obtain ⟨first, others⟩ := Bool.and_eq_true_iff.1 fixed
    refine .cons ?_ ?_
    · refine concurs_evaluate meaning arg first (common.mono (fun f used => ?_) fun key mem => ?_)
      · rw [anyUses, used, Bool.true_or]
      · exact List.mem_append_left _ mem
    · refine concur_evaluateAll meaning rest others (common.mono (fun f used => ?_)
        fun key mem => ?_)
      · rw [anyUses, used, Bool.or_true]
      · exact List.mem_append_right _ mem

end

end Node

/-! ## What checks of a tree depend on -/

/-- Two numbers at one place are the same or two zeros. -/
theorem Binary64.eq_or_zeros_of_position? {x y : Binary64} {p : Position}
    (hx : x.position? = some p) (hy : y.position? = some p) :
    x = y ∨ ∃ m n, x = .finite m .zero ∧ y = .finite n .zero := by
  cases x with
  | nan => cases hx
  | infinite s =>
    cases y with
    | nan => cases hy
    | finite t k =>
      cases hy
      cases s <;> cases hx
    | infinite t =>
      cases hx
      cases s <;> cases t <;> first | exact .inl rfl | cases hy
  | finite s m =>
    cases y with
    | nan => cases hy
    | infinite t =>
      cases hx
      cases t <;> cases hy
    | finite t k =>
      cases hx
      have units : signedUnits t k = signedUnits s m := Position.at.inj (Option.some.inj hy)
      by_cases none : m.units = 0
      · have none' : k.units = 0 := by
          unfold signedUnits at units
          split at units <;> split at units <;> omega
        obtain rfl : m = .zero := Magnitude.eq_of_units none
        obtain rfl : k = .zero := Magnitude.eq_of_units none'
        exact .inr ⟨s, t, rfl, rfl⟩
      · have same : s = t ∧ m.units = k.units := by
          unfold signedUnits at units
          cases s <;> cases t <;> simp only [Bool.false_eq_true, if_true, if_false] at units <;>
            first | exact ⟨rfl, by omega⟩ | exact absurd units (by omega)
        obtain rfl : m = k := Magnitude.eq_of_units same.2
        exact .inl (by rw [same.1])

/-- The same value, or scalars of one kind that are equal, as two zeros are. -/
def Value.Same (v w : Value) : Prop :=
  v = w ∨ ∃ x y, v = .scalar x ∧ w = .scalar y ∧ x.kind = y.kind ∧ x.strictEquals y = true

theorem Value.same_iff_akin {v w : Value} : v.Same w ↔ v.Akin True w := by
  constructor
  · rintro (rfl | ⟨x, y, rfl, rfl, kind, equal⟩)
    · exact .same v
    · cases x <;> cases y <;> first | cases equal | skip
      · exact .same _
      · obtain rfl := of_decide_eq_true equal
        exact .same _
      · rename_i a b
        obtain ⟨p, left, right⟩ := Number.positions_of_eq equal
        cases a with
        | int m =>
          cases b with
          | float y => exact absurd (show "int" = "float" from kind) (by decide)
          | int n =>
            have units : m * (unitsPerOne : Int) = n * unitsPerOne := by
              have places := left.trans right.symm
              exact Position.at.inj (Option.some.inj places)
            have positive : (unitsPerOne : Int) ≠ 0 := by
              have := unitsPerOne_pos
              omega
            obtain rfl := Int.eq_of_mul_eq_mul_right positive units
            exact .same _
        | float x =>
          cases b with
          | int n => exact absurd (show "float" = "int" from kind) (by decide)
          | float y =>
            obtain rfl | ⟨m, n, rfl, rfl⟩ := Binary64.eq_or_zeros_of_position? left right
            · exact .same _
            · exact .zeros trivial m n
      · obtain rfl := of_decide_eq_true equal
        exact .same _
  · rintro (_ | ⟨-, m, n⟩)
    · exact .inl rfl
    · refine .inr ⟨_, _, rfl, rfl, rfl, ?_⟩
      show (Number.signedZero m).eq (.signedZero n) = true
      unfold Number.eq
      rw [Number.position?_signedZero, Number.position?_signedZero]
      rfl

/-- Equally many draws have been made since in both surroundings, and none unless that may be. -/
def Surroundings.DrewAlike (mayDraw : Bool) (s t s' t' : Surroundings) : Prop :=
  ∃ count, s'.drawn = s.drawn + count ∧ t'.drawn = t.drawn + count ∧ (mayDraw = false → count = 0)

/-- Streams and clocks are those there were, and equally many draws have been made. -/
structure Surroundings.InStep (mayDraw : Bool) (s t s' t' : Surroundings) : Prop where
  streams : s'.stream = s.stream ∧ t'.stream = t.stream
  clocks : s'.clock = s.clock ∧ t'.clock = t.clock
  drew : DrewAlike mayDraw s t s' t'

namespace Node

variable {tree : Node} {c d : EvaluationContext} {s t : Surroundings}

theorem common_inStep {loose : Prop}
    (property : ∀ key ∈ tree.keys, ∃ v w, c.properties.property key = .ok v ∧
      d.properties.property key = .ok w ∧ v.Akin loose w)
    (feature : tree.uses .percentageOfActors = true → c.feature = d.feature)
    (stream : tree.uses .random = true → ∀ i, s.stream (s.drawn + i) = t.stream (t.drawn + i))
    (clock : tree.uses .now = true → s.clock = t.clock) :
    Common loose (Surroundings.InStep (tree.uses .random) s t) c d (fun f => tree.uses f)
      tree.keys where
  draw used := by
    rintro s' t' ⟨streams, clocks, count, left, right, -⟩
    refine ⟨?_, streams, clocks, count + 1, ?_, ?_, ?_⟩
    · show s'.stream s'.drawn = t'.stream t'.drawn
      rw [streams.1, streams.2, left, right, stream used]
    · exact congrArg (· + 1) left
    · exact congrArg (· + 1) right
    · intro unused
      cases used.symm.trans unused
  now used := by
    rintro s' t' inStep
    refine ⟨?_, inStep⟩
    show s'.clock = t'.clock
    rw [inStep.clocks.1, inStep.clocks.2, clock used]
  feature := feature
  property := property

/-- Two evaluations of a tree of built-in operators whose properties are named by constants end
alike, with equally many draws, if they share what the tree uses: the draws to come, the clock, the
feature's name, and the properties that are named. Zeros of either sign are the same there, and
then in the answers; otherwise the answers are identical. A missing property is null. -/
theorem evaluate_depends (meaning : Meaning) (fixed : tree.isFixed = true) {bag bag' : Entries}
    (left : c.properties = .record bag) (right : d.properties = .record bag')
    (agree : ∀ key ∈ tree.keys, (Entries.get bag key).Same (Entries.get bag' key))
    (feature : tree.uses .percentageOfActors = true → c.feature = d.feature)
    (stream : tree.uses .random = true → ∀ i, s.stream (s.drawn + i) = t.stream (t.drawn + i))
    (clock : tree.uses .now = true → s.clock = t.clock) :
    Ends (fun a b s' t' => a.value.Same b.value ∧
        ((∀ key ∈ tree.keys, Entries.get bag key = Entries.get bag' key) → a = b) ∧
        Surroundings.DrewAlike (tree.uses .random) s t s' t')
      (fun s' t' => Surroundings.DrewAlike (tree.uses .random) s t s' t')
      (tree.evaluate meaning c s) (tree.evaluate meaning d t) := by
  have start : Surroundings.InStep (tree.uses .random) s t s t :=
    ⟨⟨rfl, rfl⟩, ⟨rfl, rfl⟩, 0, rfl, rfl, fun _ => rfl⟩
  have held {c : EvaluationContext} {bag : Entries} (same : c.properties = .record bag)
      (key : String) : c.properties.property key = .ok (Entries.get bag key) := by
    rw [same]
    rfl
  have loosely : Common True (Surroundings.InStep (tree.uses .random) s t) c d
      (fun f => tree.uses f) tree.keys :=
    common_inStep (fun key mem => ⟨_, _, held left key, held right key,
      Value.same_iff_akin.1 (agree key mem)⟩) feature stream clock
  have ends := concurs_evaluate meaning tree fixed loosely s t start
  have exact_ends (same : ∀ key ∈ tree.keys, Entries.get bag key = Entries.get bag' key) :
      Ends (fun a b _ _ => a = b) (fun _ _ => True) (tree.evaluate meaning c s)
        (tree.evaluate meaning d t) := by
    have strictly : Common False (Surroundings.InStep (tree.uses .random) s t) c d
        (fun f => tree.uses f) tree.keys :=
      common_inStep (fun key mem => ⟨_, _, held left key, held right key,
        same key mem ▸ .same _⟩) feature stream clock
    refine (concurs_evaluate meaning tree fixed strictly s t start).mono ?_ fun _ _ _ => trivial
    rintro a b s' t' ⟨tally, -⟩
    cases tally with
    | same => rfl
    | zeros counts => exact counts.elim
  rcases ends.elim with ⟨a, s', b, t', ran, ran', tally, inStep⟩ |
    ⟨failure, s', t', ran, ran', inStep⟩
  · rw [ran, ran']
    refine ⟨Value.same_iff_akin.2 tally.akin.value, fun same => ?_, inStep.drew⟩
    have equal := exact_ends same
    rwa [ran, ran'] at equal
  · rw [ran, ran']
    exact ⟨rfl, inStep.drew⟩

/-- Whether the plan is paid for, or the balance is below a random number. -/
def planOrChance : Node :=
  .call (.builtin .any) [
    .call (.builtin .equal) [.call (.builtin .property) [.constant (.text "plan")],
      .constant (.text "pro")],
    .call (.builtin .lessThan) [.call (.builtin .property) [.constant (.text "balance")],
      .call (.builtin .random) [.constant (.number (.int 10))]]]

/-- Two actors with one plan and no balance, asked for two features at different times. -/
theorem evaluate_depends_planOrChance :
    let meaning : Meaning := fun _ _ => pure (.fresh .null)
    let s : Surroundings := ⟨fun _ => .int 0, 0, .int 0, [], []⟩
    let t : Surroundings := ⟨fun i => if i < 3 then .int 1 else .int 0, 3, .int 9, [], []⟩
    Ends (fun a b s' t' => a.value.Same b.value ∧ Surroundings.DrewAlike true s t s' t')
      (fun s' t' => Surroundings.DrewAlike true s t s' t')
      (planOrChance.evaluate meaning ⟨some "search", .record [(.text "plan", .text "free"),
        (.text "balance", .number (.signedZero false)), (.text "name", .text "Ada")]⟩ s)
      (planOrChance.evaluate meaning ⟨none, .record [(.text "balance",
        .number (.signedZero true)), (.text "plan", .text "free")]⟩ t) := by
  intro meaning s t
  have agree : ∀ key ∈ planOrChance.keys,
      (Entries.get [(.text "plan", .text "free"), (.text "balance",
        .number (.signedZero false)), (.text "name", .text "Ada")] key).Same
        (Entries.get [(.text "balance", .number (.signedZero true)),
          (.text "plan", .text "free")] key) := by
    intro key mem
    rcases List.mem_pair.1 (show key ∈ ["plan", "balance"] from mem) with rfl | rfl
    · exact .inl rfl
    · exact Value.same_iff_akin.2 (.zeros trivial false true)
  have stream (i : Nat) : s.stream (s.drawn + i) = t.stream (t.drawn + i) :=
    (if_neg (show ¬3 + i < 3 by omega)).symm
  refine (evaluate_depends meaning rfl rfl rfl agree nofun (fun _ => stream) nofun).mono ?_ ?_
  · rintro a b s' t' ⟨same, -, drew⟩
    exact ⟨same, drew⟩
  · exact fun _ _ drew => drew

end Node

end FeatureGates
