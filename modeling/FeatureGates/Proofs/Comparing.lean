import FeatureGates.Expression.Evaluate
import FeatureGates.Proofs.Order
import FeatureGates.Proofs.Refinement
import Mathlib.Algebra.Order.Field.Basic
import Mathlib.Algebra.Order.Field.Rat
import Mathlib.Data.Rat.Cast.Order
import Mathlib.Order.WithBot

/-!
# Comparing nodes

Six operators compare two nodes: two for equality and four for order. Two
numbers are compared by their exact values, which stand on the line of
rational numbers with its two ends (`Number.rational?`), so the laws of that
line are the laws of the operators, whatever mixture of integers and
floating-point numbers is compared. Only NaN has no exact value; whatever
else has none is no number, and then there is no order.

What a comparison says is read off the values of its nodes
(`Node.gives_iff`), and the laws of all six follow
(`Node.comparisons_cohere`).
-/

namespace FeatureGates

/-! The unit is not to be computed where terms are compared. -/

attribute [local irreducible] unitsPerOne

/-! ## Exact values -/

/-- The rational numbers with an end on either side. -/
abbrev ExtendedRat := WithBot (WithTop ℚ)

namespace ExtendedRat

def ofRat (q : ℚ) : ExtendedRat := ((q : WithTop ℚ) : ExtendedRat)

theorem ofRat_lt {p q : ℚ} : ofRat p < ofRat q ↔ p < q :=
  WithBot.coe_lt_coe.trans WithTop.coe_lt_coe

theorem bot_lt_ofRat (q : ℚ) : (⊥ : ExtendedRat) < ofRat q := WithBot.bot_lt_coe _

theorem ofRat_lt_top (q : ℚ) : ofRat q < (⊤ : ExtendedRat) :=
  WithBot.coe_lt_coe.2 (WithTop.coe_lt_top q)

end ExtendedRat

/-- Where so many units stand among the rational numbers. -/
def Position.rational : Position → ExtendedRat
  | .bottom => ⊥
  | .at units => .ofRat (units / unitsPerOne)
  | .top => ⊤

namespace Position

theorem units_lt {m n : Int} : (m / unitsPerOne : ℚ) < n / unitsPerOne ↔ m < n := by
  have positive : (0 : ℚ) < unitsPerOne := Nat.cast_pos.2 unitsPerOne_pos
  rw [div_lt_div_iff_of_pos_right positive, Int.cast_lt]

theorem rational_lt : ∀ {p q : Position}, p.rational < q.rational ↔ p.lt q = true
  | .bottom, .bottom => iff_of_false (lt_irrefl _) Bool.false_ne_true
  | .bottom, .at _ => iff_of_true (ExtendedRat.bot_lt_ofRat _) rfl
  | .bottom, .top => iff_of_true bot_lt_top rfl
  | .at _, .bottom => iff_of_false not_lt_bot Bool.false_ne_true
  | .at _, .at _ => ExtendedRat.ofRat_lt.trans (units_lt.trans decide_eq_true_iff.symm)
  | .at _, .top => iff_of_true (ExtendedRat.ofRat_lt_top _) rfl
  | .top, .bottom => iff_of_false not_top_lt Bool.false_ne_true
  | .top, .at _ => iff_of_false not_top_lt Bool.false_ne_true
  | .top, .top => iff_of_false not_top_lt Bool.false_ne_true

theorem lt_trichotomy {p q : Position} (left : p.lt q = false) (right : q.lt p = false) :
    p = q := by
  cases p <;> cases q <;> simp [lt] at left right ⊢
  omega

theorem rational_inj {p q : Position} : p.rational = q.rational ↔ p = q := by
  refine ⟨fun same => lt_trichotomy ?_ ?_, congrArg rational⟩
  · exact Bool.eq_false_iff.2 fun less => (rational_lt.2 less).ne same
  · exact Bool.eq_false_iff.2 fun less => (rational_lt.2 less).ne same.symm

end Position

namespace Number

/-- The exact value of a number; NaN has none. -/
def rational? : Number → Option ExtendedRat
  | .int n => some (.ofRat n)
  | .float .nan => none
  | .float (.infinite negative) => some (if negative then ⊥ else ⊤)
  | .float (.finite negative magnitude) =>
    some (.ofRat (Binary64.signedUnits negative magnitude / unitsPerOne))

/-- Exact values are those of places. -/
theorem rational?_eq (n : Number) : n.rational? = n.position?.map Position.rational := by
  cases n with
  | int n =>
    have positive : (unitsPerOne : ℚ) ≠ 0 := Nat.cast_ne_zero.2 unitsPerOne_pos.ne'
    have units : ((n * (unitsPerOne : Int) : Int) : ℚ) / unitsPerOne = n := by
      rw [Int.cast_mul, Int.cast_natCast, mul_div_cancel_right₀ _ positive]
    exact congrArg (fun q => some (ExtendedRat.ofRat q)) units.symm
  | float x =>
    cases x with
    | nan => rfl
    | infinite negative => cases negative <;> rfl
    | finite negative magnitude => rfl

theorem rational?_eq_none_iff {n : Number} : n.rational? = none ↔ n.isNaN = true := by
  cases n with
  | int n => exact iff_of_false nofun Bool.false_ne_true
  | float x =>
    cases x with
    | nan => exact iff_of_true rfl rfl
    | infinite negative => exact iff_of_false nofun Bool.false_ne_true
    | finite negative magnitude => exact iff_of_false nofun Bool.false_ne_true

theorem exists_rational {n : Number} (h : n.isNaN = false) : ∃ x, n.rational? = some x :=
  Option.ne_none_iff_exists'.1 fun none => Bool.eq_false_iff.1 h (rational?_eq_none_iff.1 none)

section Exact

variable {a b : Number} {x y : ExtendedRat}

theorem positions_of_rational (ha : a.rational? = some x) :
    ∃ p, a.position? = some p ∧ p.rational = x :=
  Option.map_eq_some_iff.1 (a.rational?_eq.symm.trans ha)

theorem lt_iff_rational (ha : a.rational? = some x) (hb : b.rational? = some y) :
    a.lt b = true ↔ x < y := by
  obtain ⟨p, left, rfl⟩ := positions_of_rational ha
  obtain ⟨q, right, rfl⟩ := positions_of_rational hb
  unfold lt
  rw [left, right]
  exact Position.rational_lt.symm

theorem le_iff_rational (ha : a.rational? = some x) (hb : b.rational? = some y) :
    a.le b = true ↔ x ≤ y := by
  obtain ⟨p, left, rfl⟩ := positions_of_rational ha
  obtain ⟨q, right, rfl⟩ := positions_of_rational hb
  unfold le
  rw [left, right, ← not_lt, Position.rational_lt]
  show (!q.lt p) = true ↔ _
  rw [Bool.not_eq_true', Bool.not_eq_true]

theorem eq_iff_rational (ha : a.rational? = some x) (hb : b.rational? = some y) :
    a.eq b = true ↔ x = y := by
  obtain ⟨p, left, rfl⟩ := positions_of_rational ha
  obtain ⟨q, right, rfl⟩ := positions_of_rational hb
  unfold eq
  rw [left, right]
  exact decide_eq_true_iff.trans Position.rational_inj.symm

end Exact

/-- Without an exact value on both sides there is no order and no equality. -/
theorem unrelated_of_isNaN {a b : Number} (h : a.isNaN = true ∨ b.isNaN = true) :
    a.lt b = false ∧ a.le b = false ∧ a.eq b = false := by
  have nowhere {n : Number} (h : n.isNaN = true) : n.position? = none := by
    have none := n.rational?_eq.symm.trans (rational?_eq_none_iff.2 h)
    exact Option.map_eq_none_iff.1 none
  unfold lt le eq
  rcases h with h | h
  · rw [nowhere h]
    exact ⟨rfl, rfl, rfl⟩
  · rw [nowhere h]
    cases a.position? <;> exact ⟨rfl, rfl, rfl⟩

end Number

namespace Operand

/-- A number with a place in the order: any but NaN. -/
def IsProper (a : Operand) : Prop := ∃ n, a.value = .number n ∧ n.isNaN = false

/-- The exact value of an operand that is a number. -/
def rational? (a : Operand) : Option ExtendedRat :=
  match a.value with
  | .number n => n.rational?
  | _ => none

theorem rational?_of_number {a : Operand} {n : Number} (h : a.value = .number n) :
    a.rational? = n.rational? := by
  unfold rational?
  rw [h]

theorem rational?_eq_some_iff {a : Operand} {x : ExtendedRat} :
    a.rational? = some x ↔ ∃ n, a.value = .number n ∧ n.rational? = some x := by
  constructor
  · intro h
    unfold rational? at h
    split at h
    · exact ⟨_, ‹_›, h⟩
    · cases h
  · rintro ⟨n, value, same⟩
    rw [rational?_of_number value, same]

/-- The proper numbers are the operands with an exact value. -/
theorem isProper_iff {a : Operand} : a.IsProper ↔ ∃ x, a.rational? = some x := by
  constructor
  · rintro ⟨n, value, proper⟩
    obtain ⟨x, same⟩ := Number.exists_rational proper
    exact ⟨x, rational?_eq_some_iff.2 ⟨n, value, same⟩⟩
  · rintro ⟨x, h⟩
    obtain ⟨n, value, same⟩ := rational?_eq_some_iff.1 h
    refine ⟨n, value, Bool.eq_false_iff.2 fun nan => ?_⟩
    rw [Number.rational?_eq_none_iff.2 nan] at same
    cases same

/-- An order asks for exact values on both sides. -/
theorem ordering_iff {order : Number → Number → Bool} {related : ExtendedRat → ExtendedRat → Prop}
    (unordered : ∀ m n, m.isNaN = true ∨ n.isNaN = true → order m n = false)
    (ordered : ∀ m n x y, m.rational? = some x → n.rational? = some y →
      (order m n = true ↔ related x y)) (a b : Operand) :
    Meaning.ordering order a b = true ↔
      ∃ x y, a.rational? = some x ∧ b.rational? = some y ∧ related x y := by
  constructor
  · intro h
    unfold Meaning.ordering at h
    split at h
    · rename_i m n left right
      have proper : ¬(m.isNaN = true ∨ n.isNaN = true) := fun nan =>
        Bool.noConfusion (h.symm.trans (unordered m n nan))
      rw [not_or, Bool.not_eq_true, Bool.not_eq_true] at proper
      obtain ⟨x, hx⟩ := Number.exists_rational proper.1
      obtain ⟨y, hy⟩ := Number.exists_rational proper.2
      refine ⟨x, y, ?_, ?_, (ordered m n x y hx hy).1 h⟩
      · rw [rational?_of_number left, hx]
      · rw [rational?_of_number right, hy]
    · cases h
  · rintro ⟨x, y, hx, hy, holds⟩
    obtain ⟨m, left, hx⟩ := rational?_eq_some_iff.1 hx
    obtain ⟨n, right, hy⟩ := rational?_eq_some_iff.1 hy
    unfold Meaning.ordering
    rw [left, right]
    exact (ordered m n x y hx hy).2 holds

end Operand

/-! ### Equality -/

/-- What strict equality goes by: a scalar's kind and value, a number's
being the exact one, and the property that anything else was found under. -/
inductive Identity where
  | null
  | bool (b : Bool)
  | number (x : ExtendedRat)
  | text (s : String)
  | property (key : String)

/-- NaN has no identity. -/
def Scalar.identity? : Scalar → Option Identity
  | .null => some .null
  | .bool b => some (.bool b)
  | .number n => n.rational?.map .number
  | .text s => some (.text s)

def Origin.identity? : Origin → Option Identity
  | .fresh => none
  | .property key => some (.property key)

/-- What equals an operand: whatever has the same identity. One without
equals nothing, itself included. -/
def Operand.identity? (a : Operand) : Option Identity :=
  match a.value with
  | .scalar s => s.identity?
  | _ => a.origin.identity?

theorem Number.eq_iff {m n : Number} :
    m.eq n = true ↔ ∃ x, m.rational? = some x ∧ n.rational? = some x := by
  constructor
  · intro h
    obtain ⟨p, left, right⟩ := positions_of_eq h
    rw [rational?_eq, rational?_eq, left, right]
    exact ⟨p.rational, rfl, rfl⟩
  · rintro ⟨x, left, right⟩
    exact (eq_iff_rational left right).2 rfl

theorem Scalar.strictEquals_iff (s t : Scalar) :
    s.strictEquals t = true ↔ ∃ i, s.identity? = some i ∧ t.identity? = some i := by
  cases s with
  | number m =>
    cases t with
    | number n =>
      rw [strictEquals, Number.eq_iff, identity?, identity?]
      constructor
      · rintro ⟨x, left, right⟩
        rw [left, right]
        exact ⟨.number x, rfl, rfl⟩
      · rintro ⟨i, left, right⟩
        obtain ⟨x, hx, rfl⟩ := Option.map_eq_some_iff.1 left
        obtain ⟨y, hy, same⟩ := Option.map_eq_some_iff.1 right
        cases same
        exact ⟨x, hx, hy⟩
    | _ => simp [strictEquals, identity?]
  | _ => cases t <;> simp [strictEquals, identity?, eq_comm]

theorem Operand.isSame_iff (a b : Operand) : a.isSame b = true ↔
    ∃ i, a.origin.identity? = some i ∧ b.origin.identity? = some i := by
  unfold isSame
  cases a.origin <;> cases b.origin <;> simp [Origin.identity?, eq_comm]

/-- Nothing that is found equals a scalar. -/
theorem Origin.identity?_ne {origin : Origin} {i : Identity} (h : origin.identity? = some i)
    (s : Scalar) : s.identity? ≠ some i := by
  cases origin with
  | fresh => cases h
  | property key =>
    cases h
    cases s <;> simp [Scalar.identity?]

namespace Operand

variable {a b : Operand} {x : ExtendedRat}

/-- Operands are strictly equal where they have one identity. -/
theorem strictEquals_iff (a b : Operand) : a.strictEquals b = true ↔
    ∃ i, a.identity? = some i ∧ b.identity? = some i := by
  have apart {s : Scalar} {origin : Origin} :
      ¬∃ i, s.identity? = some i ∧ origin.identity? = some i :=
    fun ⟨i, left, right⟩ => Origin.identity?_ne right s left
  obtain ⟨v, j⟩ := a
  obtain ⟨w, k⟩ := b
  cases v with
  | scalar s =>
    cases w with
    | scalar t => exact s.strictEquals_iff t
    | _ => exact iff_of_false Bool.false_ne_true apart
  | _ =>
    cases w with
    | scalar t => exact iff_of_false Bool.false_ne_true fun ⟨i, h, h'⟩ => apart ⟨i, h', h⟩
    | _ => exact isSame_iff _ _

theorem identity?_eq_null_iff : a.identity? = some .null ↔ a.value = .null := by
  obtain ⟨v, origin⟩ := a
  cases v with
  | scalar s => cases s <;> simp [identity?, Scalar.identity?]
  | _ => cases origin <;> exact iff_of_false nofun nofun

theorem identity?_eq_number_iff : a.identity? = some (.number x) ↔ a.rational? = some x := by
  obtain ⟨v, origin⟩ := a
  cases v with
  | scalar s =>
    cases s with
    | number n =>
      show n.rational?.map Identity.number = _ ↔ n.rational? = _
      rw [Option.map_eq_some_iff]
      exact ⟨fun ⟨_, there, same⟩ => Identity.number.inj same ▸ there, fun there => ⟨x, there, rfl⟩⟩
    | _ => exact iff_of_false nofun nofun
  | _ => cases origin <;> exact iff_of_false nofun nofun

end Operand

/-! ## What a comparison asks -/

namespace Builtin

/-- The operators that compare two nodes. -/
def comparisons : List Builtin :=
  [.equal, .notEqual, .greaterThan, .greaterThanOrEqualTo, .lessThan, .lessThanOrEqualTo]

/-- Those that ask for an order. -/
def orderings : List Builtin :=
  [.greaterThan, .greaterThanOrEqualTo, .lessThan, .lessThanOrEqualTo]

theorem mem_comparisons {operator : Builtin} (h : operator ∈ orderings) :
    operator ∈ comparisons := List.mem_cons_of_mem _ (List.mem_cons_of_mem _ h)

/-- The relation that a comparison asks of two operands that are not null. -/
def relation : Builtin → Operand → Operand → Bool
  | .equal => Operand.strictEquals
  | .notEqual => fun left right => !left.strictEquals right
  | .greaterThan => Meaning.ordering fun a b => b.lt a
  | .greaterThanOrEqualTo => Meaning.ordering fun a b => b.le a
  | .lessThan => Meaning.ordering Number.lt
  | .lessThanOrEqualTo => Meaning.ordering Number.le
  | _ => fun _ _ => false

/-- What a comparison says of two operands. Whatever is compared with null, it says no. -/
def verdict (operator : Builtin) (left right : Operand) : Bool :=
  !left.value.isNull && !right.value.isNull && operator.relation left right

theorem ofBuiltin_comparison {operator : Builtin} (h : operator ∈ comparisons)
    (context : EvaluationContext) (args : Arguments) :
    Meaning.ofBuiltin context operator args = Meaning.compare args operator.relation := by
  simp only [comparisons, List.mem_cons, List.not_mem_nil, or_false] at h
  rcases h with rfl | rfl | rfl | rfl | rfl | rfl <;> rfl

/-! ### Verdicts -/

section Verdict

variable {a b c : Operand} {x y : ExtendedRat}

theorem verdict_of_null (h : a.value = .null ∨ b.value = .null) (operator : Builtin) :
    operator.verdict a b = false := by
  unfold verdict
  rcases h with h | h
  · rw [h]
    rfl
  · rw [h]
    exact congrArg (· && _) (Bool.and_false _)

theorem verdict_of_ne_null (ha : a.value ≠ .null) (hb : b.value ≠ .null) (operator : Builtin) :
    operator.verdict a b = operator.relation a b := by
  unfold verdict
  rw [Value.isNull_eq_false ha, Value.isNull_eq_false hb]
  rfl

theorem ne_null_of_verdict {operator : Builtin} (h : operator.verdict a b = true) :
    a.value ≠ .null ∧ b.value ≠ .null :=
  ⟨fun null => Bool.noConfusion (h.symm.trans (verdict_of_null (.inl null) operator)),
    fun null => Bool.noConfusion (h.symm.trans (verdict_of_null (.inr null) operator))⟩

theorem ne_null_of_rational (h : a.rational? = some x) : a.value ≠ .null := by
  obtain ⟨n, value, -⟩ := Operand.rational?_eq_some_iff.1 h
  rw [value]
  exact nofun

/-- What the verdicts that ask for an order say of exact values. -/
theorem verdict_iff_of_ordering {operator : Builtin} {order : Number → Number → Bool}
    {related : ExtendedRat → ExtendedRat → Prop}
    (is : operator.relation = Meaning.ordering order)
    (unordered : ∀ m n, m.isNaN = true ∨ n.isNaN = true → order m n = false)
    (ordered : ∀ m n x y, m.rational? = some x → n.rational? = some y →
      (order m n = true ↔ related x y)) :
    operator.verdict a b = true ↔
      ∃ x y, a.rational? = some x ∧ b.rational? = some y ∧ related x y := by
  rw [← Operand.ordering_iff unordered ordered a b, ← is]
  constructor
  · intro h
    obtain ⟨ha, hb⟩ := ne_null_of_verdict h
    exact (verdict_of_ne_null ha hb operator).symm.trans h
  · intro h
    obtain ⟨x, y, hx, hy, -⟩ := (Operand.ordering_iff unordered ordered a b).1 (is ▸ h)
    exact (verdict_of_ne_null (ne_null_of_rational hx) (ne_null_of_rational hy) operator).trans h

theorem lessThan_iff : verdict .lessThan a b = true ↔
    ∃ x y, a.rational? = some x ∧ b.rational? = some y ∧ x < y :=
  verdict_iff_of_ordering rfl (fun _ _ h => (Number.unrelated_of_isNaN h).1)
    fun _ _ _ _ => Number.lt_iff_rational

theorem lessThanOrEqualTo_iff : verdict .lessThanOrEqualTo a b = true ↔
    ∃ x y, a.rational? = some x ∧ b.rational? = some y ∧ x ≤ y :=
  verdict_iff_of_ordering rfl (fun _ _ h => (Number.unrelated_of_isNaN h).2.1)
    fun _ _ _ _ => Number.le_iff_rational

theorem greaterThan_iff : verdict .greaterThan a b = true ↔
    ∃ x y, a.rational? = some x ∧ b.rational? = some y ∧ x > y :=
  verdict_iff_of_ordering rfl (fun _ _ h => (Number.unrelated_of_isNaN h.symm).1)
    fun _ _ _ _ hx hy => Number.lt_iff_rational hy hx

theorem greaterThanOrEqualTo_iff : verdict .greaterThanOrEqualTo a b = true ↔
    ∃ x y, a.rational? = some x ∧ b.rational? = some y ∧ x ≥ y :=
  verdict_iff_of_ordering rfl (fun _ _ h => (Number.unrelated_of_isNaN h.symm).2.1)
    fun _ _ _ _ hx hy => Number.le_iff_rational hy hx

/-- Every order is between operands with exact values. -/
theorem rational_of_ordering {operator : Builtin} (h : operator ∈ orderings)
    (holds : operator.verdict a b = true) :
    (∃ x, a.rational? = some x) ∧ ∃ y, b.rational? = some y := by
  simp only [orderings, List.mem_cons, List.not_mem_nil, or_false] at h
  rcases h with rfl | rfl | rfl | rfl
  · obtain ⟨x, y, hx, hy, -⟩ := greaterThan_iff.1 holds
    exact ⟨⟨x, hx⟩, y, hy⟩
  · obtain ⟨x, y, hx, hy, -⟩ := greaterThanOrEqualTo_iff.1 holds
    exact ⟨⟨x, hx⟩, y, hy⟩
  · obtain ⟨x, y, hx, hy, -⟩ := lessThan_iff.1 holds
    exact ⟨⟨x, hx⟩, y, hy⟩
  · obtain ⟨x, y, hx, hy, -⟩ := lessThanOrEqualTo_iff.1 holds
    exact ⟨⟨x, hx⟩, y, hy⟩

/-- Of two values one of the two verdicts on equality holds. -/
theorem notEqual_eq (ha : a.value ≠ .null) (hb : b.value ≠ .null) :
    verdict .notEqual a b = !verdict .equal a b := by
  rw [verdict_of_ne_null ha hb, verdict_of_ne_null ha hb]
  rfl

/-- Equality holds of values, not null, of one identity. -/
theorem equal_iff : verdict .equal a b = true ↔
    ∃ i, i ≠ .null ∧ a.identity? = some i ∧ b.identity? = some i := by
  constructor
  · intro h
    obtain ⟨ha, hb⟩ := ne_null_of_verdict h
    rw [verdict_of_ne_null ha hb] at h
    obtain ⟨i, left, right⟩ := (Operand.strictEquals_iff a b).1 h
    exact ⟨i, fun null => ha (Operand.identity?_eq_null_iff.1 (null ▸ left)), left, right⟩
  · rintro ⟨i, proper, left, right⟩
    have ne_null {c : Operand} (h : c.identity? = some i) : c.value ≠ .null := fun null =>
      proper (Option.some.inj (h.symm.trans (Operand.identity?_eq_null_iff.2 null)))
    rw [verdict_of_ne_null (ne_null left) (ne_null right)]
    exact (Operand.strictEquals_iff a b).2 ⟨i, left, right⟩

theorem equal_symm (h : verdict .equal a b = true) : verdict .equal b a = true := by
  obtain ⟨i, proper, left, right⟩ := equal_iff.1 h
  exact equal_iff.2 ⟨i, proper, right, left⟩

theorem equal_trans (h : verdict .equal a b = true) (h' : verdict .equal b c = true) :
    verdict .equal a c = true := by
  obtain ⟨i, proper, left, right⟩ := equal_iff.1 h
  obtain ⟨j, -, left', right'⟩ := equal_iff.1 h'
  obtain rfl : i = j := Option.some.inj (right.symm.trans left')
  exact equal_iff.2 ⟨i, proper, left, right'⟩

theorem equal_iff_rational (ha : a.rational? = some x) (hb : b.rational? = some y) :
    verdict .equal a b = true ↔ x = y := by
  have left := Operand.identity?_eq_number_iff.2 ha
  have right := Operand.identity?_eq_number_iff.2 hb
  rw [equal_iff]
  constructor
  · rintro ⟨i, -, left', right'⟩
    have same := (left.symm.trans left').trans (right'.symm.trans right)
    exact Identity.number.inj (Option.some.inj same)
  · rintro rfl
    exact ⟨.number x, nofun, left, right⟩

/-- Equal operands have the same exact value if any. -/
theorem rational_of_equal (h : verdict .equal a b = true) : a.rational? = b.rational? := by
  obtain ⟨i, -, left, right⟩ := equal_iff.1 h
  refine Option.ext fun x => ?_
  rw [← Operand.identity?_eq_number_iff, ← Operand.identity?_eq_number_iff, left, right]

theorem exists_rational_iff (ha : a.rational? = some x) (hb : b.rational? = some y)
    {related : ExtendedRat → ExtendedRat → Prop} :
    (∃ x y, a.rational? = some x ∧ b.rational? = some y ∧ related x y) ↔ related x y := by
  rw [ha, hb]
  exact ⟨fun ⟨_, _, left, right, h⟩ => Option.some.inj left ▸ Option.some.inj right ▸ h,
    fun h => ⟨x, y, rfl, rfl, h⟩⟩

theorem lessThan_trans (h : verdict .lessThan a b = true) (h' : verdict .lessThan b c = true) :
    verdict .lessThan a c = true := by
  obtain ⟨x, y, hx, hy, less⟩ := lessThan_iff.1 h
  obtain ⟨y', z, hy', hz, less'⟩ := lessThan_iff.1 h'
  obtain rfl : y = y' := Option.some.inj (hy.symm.trans hy')
  exact lessThan_iff.2 ⟨x, z, hx, hz, less.trans less'⟩

theorem lessThan_congr (h : a.rational? = b.rational?) :
    verdict .lessThan a c = verdict .lessThan b c ∧
      verdict .lessThan c a = verdict .lessThan c b := by
  constructor
  · rw [Bool.eq_iff_iff, lessThan_iff, lessThan_iff, h]
  · rw [Bool.eq_iff_iff, lessThan_iff, lessThan_iff, h]

theorem lessThan_iff_rational (ha : a.rational? = some x) (hb : b.rational? = some y) :
    verdict .lessThan a b = true ↔ x < y := lessThan_iff.trans (exists_rational_iff ha hb)

theorem lessThanOrEqualTo_iff_rational (ha : a.rational? = some x) (hb : b.rational? = some y) :
    verdict .lessThanOrEqualTo a b = true ↔ x ≤ y :=
  lessThanOrEqualTo_iff.trans (exists_rational_iff ha hb)

theorem greaterThan_iff_rational (ha : a.rational? = some x) (hb : b.rational? = some y) :
    verdict .greaterThan a b = true ↔ x > y := greaterThan_iff.trans (exists_rational_iff ha hb)

theorem greaterThanOrEqualTo_iff_rational (ha : a.rational? = some x) (hb : b.rational? = some y) :
    verdict .greaterThanOrEqualTo a b = true ↔ x ≥ y :=
  greaterThanOrEqualTo_iff.trans (exists_rational_iff ha hb)

/-- One verdict of several holds if there is one that each of them holds as. -/
theorem existsUnique_of {operators : List Builtin} (chosen : Builtin) (listed : chosen ∈ operators)
    (only : ∀ operator ∈ operators, operator.verdict a b = true ↔ operator = chosen) :
    ∃! operator, operator ∈ operators ∧ operator.verdict a b = true :=
  ⟨chosen, ⟨listed, (only chosen listed).2 rfl⟩, fun operator h => (only operator h.1).1 h.2⟩

theorem existsUnique_equality (ha : a.value ≠ .null) (hb : b.value ≠ .null) :
    ∃! operator, operator ∈ [equal, notEqual] ∧ operator.verdict a b = true := by
  have other := notEqual_eq ha hb
  cases same : verdict .equal a b with
  | true => exact existsUnique_of .equal (by simp) (by simp [other, same])
  | false => exact existsUnique_of .notEqual (by simp) (by simp [other, same])

theorem existsUnique_order (ha : a.rational? = some x) (hb : b.rational? = some y) :
    ∃! operator, operator ∈ [lessThan, equal, greaterThan] ∧ operator.verdict a b = true := by
  have less := lessThan_iff_rational ha hb
  have same := equal_iff_rational ha hb
  have more := greaterThan_iff_rational ha hb
  rcases lt_trichotomy x y with h | h | h
  · exact existsUnique_of .lessThan (by simp) (by simp [less, same, more, h, h.ne, h.not_gt])
  · exact existsUnique_of .equal (by simp) (by simp [less, same, more, h])
  · exact existsUnique_of .greaterThan (by simp) (by simp [less, same, more, h, h.ne', h.not_gt])

theorem lessThanOrEqualTo_iff_or (ha : a.rational? = some x) (hb : b.rational? = some y) :
    verdict .lessThanOrEqualTo a b = true ↔
      verdict .lessThan a b = true ∨ verdict .equal a b = true := by
  rw [lessThanOrEqualTo_iff_rational ha hb, lessThan_iff_rational ha hb, equal_iff_rational ha hb]
  exact le_iff_lt_or_eq

theorem greaterThanOrEqualTo_iff_or (ha : a.rational? = some x) (hb : b.rational? = some y) :
    verdict .greaterThanOrEqualTo a b = true ↔
      verdict .greaterThan a b = true ∨ verdict .equal a b = true := by
  rw [greaterThanOrEqualTo_iff_rational ha hb, greaterThan_iff_rational ha hb,
    equal_iff_rational ha hb, eq_comm (a := x)]
  exact le_iff_lt_or_eq

end Verdict

end Builtin

/-! ## What a comparison says -/

/-- Where something is so of the surroundings the check gives this value, and it is so again. -/
def Check.Yields {α : Type} (P : Surroundings → Prop) (check : Check α) (a : α) : Prop :=
  ∀ s, P s → ∃ s', check s = .ok a s' ∧ P s'

namespace Node

variable {meaning : Meaning} {context : EvaluationContext} {P : Surroundings → Prop}
  {A B C : Node} {a b c : Operand} {s : Surroundings}

/-- From some surroundings a comparison of two trees gives a truth value. -/
def Gives (meaning : Meaning) (context : EvaluationContext) (s : Surroundings)
    (operator : Builtin) (left right : Node) (truth : Bool) : Prop :=
  ∃ s', (call (.builtin operator) [left, right]).evaluate meaning context s =
    .ok (Meaning.answer truth) s'

theorem evaluate_comparison {operator : Builtin} (h : operator ∈ Builtin.comparisons)
    (hA : Check.Yields P (A.evaluate meaning context) a)
    (hB : Check.Yields P (B.evaluate meaning context) b) (start : P s) :
    ∃ s', (call (.builtin operator) [A, B]).evaluate meaning context s =
      .ok (Meaning.answer (operator.verdict a b)) s' := by
  obtain ⟨s', left, between⟩ := hA s start
  obtain ⟨s'', right, -⟩ := hB s' between
  have first (x y : Check Operand) : Meaning.argument [x, y] 0 = x := rfl
  have second (x y : Check Operand) : Meaning.argument [x, y] 1 = y := rfl
  refine ⟨s'', ?_⟩
  rw [evaluate, evaluateAll, evaluateAll, evaluateAll, Builtin.ofBuiltin_comparison h,
    Meaning.compare, first, second, bind_apply, left]
  dsimp only
  rw [bind_apply, right]
  rfl

/-- A comparison of two trees says what there is to say of their values. -/
theorem gives_iff {operator : Builtin} (h : operator ∈ Builtin.comparisons)
    (hA : Check.Yields P (A.evaluate meaning context) a)
    (hB : Check.Yields P (B.evaluate meaning context) b) (start : P s) {truth : Bool} :
    Gives meaning context s operator A B truth ↔ operator.verdict a b = truth := by
  obtain ⟨s', ran⟩ := evaluate_comparison h hA hB start
  constructor
  · rintro ⟨s'', said⟩
    have same := ran.symm.trans said
    injection same with value
    injection value with value
    injection value with value
    injection value
  · rintro rfl
    exact ⟨s', ran⟩

/-- The laws of the six comparisons of three trees with these values. -/
structure Coherent (gives : Builtin → Node → Node → Bool → Prop) (A B C : Node) (a b c : Operand) :
    Prop where
  /-- Every comparison says yes or no, not both. -/
  decided : ∀ operator ∈ Builtin.comparisons, ∃! truth, gives operator A B truth
  /-- Whatever is compared with null, the answer is no. -/
  null : a.value = .null ∨ b.value = .null →
    ∀ operator ∈ Builtin.comparisons, gives operator A B false
  equality : a.value ≠ .null → b.value ≠ .null →
    ∃! operator, operator ∈ [.equal, .notEqual] ∧ gives operator A B true
  trichotomy : a.IsProper → b.IsProper →
    ∃! operator, operator ∈ [.lessThan, .equal, .greaterThan] ∧ gives operator A B true
  lessOrEqual : a.IsProper → b.IsProper →
    (gives .lessThanOrEqualTo A B true ↔ gives .lessThan A B true ∨ gives .equal A B true)
  greaterOrEqual : a.IsProper → b.IsProper →
    (gives .greaterThanOrEqualTo A B true ↔ gives .greaterThan A B true ∨ gives .equal A B true)
  /-- There is no order unless both are numbers other than NaN. -/
  unordered : ¬(a.IsProper ∧ b.IsProper) → ∀ operator ∈ Builtin.orderings, gives operator A B false
  equal_symm : gives .equal A B true → gives .equal B A true
  equal_trans : gives .equal A B true → gives .equal B C true → gives .equal A C true
  lessThan_trans : gives .lessThan A B true → gives .lessThan B C true → gives .lessThan A C true
  /-- Of equal trees the same are less and greater. -/
  lessThan_congr : gives .equal A B true → ∀ truth,
    (gives .lessThan A C truth ↔ gives .lessThan B C truth) ∧
      (gives .lessThan C A truth ↔ gives .lessThan C B truth)
  /-- Numbers of both kinds are compared by their exact values. -/
  byValue : ∀ x y, a.rational? = some x → b.rational? = some y →
    (gives .lessThan A B true ↔ x < y) ∧ (gives .equal A B true ↔ x = y)

/-- Comparisons of trees cohere where each tree gives one value however often
it is asked: the verdicts on the values do. -/
theorem comparisons_cohere (hA : Check.Yields P (A.evaluate meaning context) a)
    (hB : Check.Yields P (B.evaluate meaning context) b)
    (hC : Check.Yields P (C.evaluate meaning context) c) (start : P s) :
    Coherent (Gives meaning context s) A B C a b c := by
  have compared {operator : Builtin} (h : operator ∈ Builtin.comparisons) {truth : Bool} :
      Gives meaning context s operator A B truth ↔ operator.verdict a b = truth :=
    gives_iff h hA hB start
  have equal_listed : Builtin.equal ∈ Builtin.comparisons := by decide
  have less_listed : Builtin.lessThan ∈ Builtin.comparisons := by decide
  have equalities {operator : Builtin} (h : operator ∈ [.equal, .notEqual]) :
      operator ∈ Builtin.comparisons := (by decide : [_, _] ⊆ Builtin.comparisons) h
  have orders {operator : Builtin} (h : operator ∈ [.lessThan, .equal, .greaterThan]) :
      operator ∈ Builtin.comparisons := (by decide : [_, _, _] ⊆ Builtin.comparisons) h
  constructor
  case decided =>
    intro operator h
    exact ⟨operator.verdict a b, (compared h).2 rfl, fun truth said => ((compared h).1 said).symm⟩
  case null =>
    intro null operator h
    exact (compared h).2 (Builtin.verdict_of_null null operator)
  case equality =>
    intro ha hb
    exact (existsUnique_congr fun operator => and_congr_right fun h => compared (equalities h)).2
      (Builtin.existsUnique_equality ha hb)
  case trichotomy =>
    intro ha hb
    obtain ⟨x, hx⟩ := Operand.isProper_iff.1 ha
    obtain ⟨y, hy⟩ := Operand.isProper_iff.1 hb
    exact (existsUnique_congr fun operator => and_congr_right fun h => compared (orders h)).2
      (Builtin.existsUnique_order hx hy)
  case lessOrEqual =>
    intro ha hb
    obtain ⟨x, hx⟩ := Operand.isProper_iff.1 ha
    obtain ⟨y, hy⟩ := Operand.isProper_iff.1 hb
    rw [compared (by decide), compared less_listed, compared equal_listed]
    exact Builtin.lessThanOrEqualTo_iff_or hx hy
  case greaterOrEqual =>
    intro ha hb
    obtain ⟨x, hx⟩ := Operand.isProper_iff.1 ha
    obtain ⟨y, hy⟩ := Operand.isProper_iff.1 hb
    rw [compared (by decide), compared (by decide), compared equal_listed]
    exact Builtin.greaterThanOrEqualTo_iff_or hx hy
  case unordered =>
    intro apart operator h
    refine (compared (Builtin.mem_comparisons h)).2 (Bool.eq_false_iff.2 fun holds => apart ?_)
    obtain ⟨ha, hb⟩ := Builtin.rational_of_ordering h holds
    exact ⟨Operand.isProper_iff.2 ha, Operand.isProper_iff.2 hb⟩
  case equal_symm =>
    rw [compared equal_listed, gives_iff equal_listed hB hA start]
    exact Builtin.equal_symm
  case equal_trans =>
    rw [compared equal_listed, gives_iff equal_listed hB hC start,
      gives_iff equal_listed hA hC start]
    exact Builtin.equal_trans
  case lessThan_trans =>
    rw [compared less_listed, gives_iff less_listed hB hC start, gives_iff less_listed hA hC start]
    exact Builtin.lessThan_trans
  case lessThan_congr =>
    intro same truth
    have values := Builtin.rational_of_equal ((compared equal_listed).1 same)
    obtain ⟨left, right⟩ := Builtin.lessThan_congr (c := c) values
    rw [gives_iff less_listed hA hC start, gives_iff less_listed hB hC start,
      gives_iff less_listed hC hA start, gives_iff less_listed hC hB start, left, right]
    exact ⟨Iff.rfl, Iff.rfl⟩
  case byValue =>
    intro x y hx hy
    rw [compared less_listed, compared equal_listed]
    exact ⟨Builtin.lessThan_iff_rational hx hy, Builtin.equal_iff_rational hx hy⟩

/-- An integer that is no floating-point number, its neighbour that is one, and a truth value. -/
theorem comparisons_cohere_mixed :
    let meaning : Meaning := fun _ _ => pure (.fresh .null)
    let context : EvaluationContext := ⟨none, .emptyRecord⟩
    let s : Surroundings := ⟨fun _ => .int 0, 0, .int 0, [], []⟩
    let whole : Operand := .fresh (.int 9007199254740993)
    let rounded : Operand := .fresh (.float (.ofDecimal false 9007199254740992 0))
    let truth : Operand := .fresh (.bool true)
    let A := constant (.number (.int 9007199254740993))
    let B := constant (.number (.float (.ofDecimal false 9007199254740992 0)))
    let C := constant (.bool true)
    Check.Yields (fun t => t = s) (A.evaluate meaning context) whole ∧
      Check.Yields (fun t => t = s) (B.evaluate meaning context) rounded ∧
      Check.Yields (fun t => t = s) (C.evaluate meaning context) truth ∧
      Coherent (Gives meaning context s) A B C whole rounded truth := by
  intro meaning context s whole rounded truth A B C
  have yields (value : Scalar) : Check.Yields (fun t => t = s)
      ((constant value).evaluate meaning context) (.fresh (.scalar value)) :=
    fun t same => ⟨t, rfl, same⟩
  exact ⟨yields _, yields _, yields _, comparisons_cohere (yields _) (yields _) (yields _) rfl⟩

end Node

end FeatureGates
