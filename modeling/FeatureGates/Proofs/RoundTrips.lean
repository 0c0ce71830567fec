import FeatureGates.Proofs.Order
import FeatureGates.Proofs.Trees

/-!
# Trees out of their own object notation

A tree that was built from object notation without ready-made trees is
built again, the same, from its own object notation; that holds in every
extension of the standard registry, built-in names taken over included.
The trees are the same and still need not be equal: `Node.equals` compares
leaves as numbers, and a leaf that holds NaN is not equal to itself
(`Node.equals_self_iff`).
-/

namespace FeatureGates

/-- A number that is NaN. -/
def Scalar.isNaN : Scalar → Bool
  | .number n => n.isNaN
  | _ => false

theorem Scalar.strictEquals_self_iff (s : Scalar) :
    s.strictEquals s = true ↔ s.isNaN = false := by
  cases s with
  | null => exact iff_of_true rfl rfl
  | bool b => exact iff_of_true (decide_eq_true rfl) rfl
  | number n => exact n.eq_self_iff
  | text t => exact iff_of_true (decide_eq_true rfl) rfl

namespace Node

/-! ## Equality with itself -/

mutual

/-- Some leaf is NaN. -/
def holdsNaN : Node → Bool
  | .constant value => value.isNaN
  | .call _ args => anyHoldsNaN args

def anyHoldsNaN : List Node → Bool
  | [] => false
  | arg :: rest => holdsNaN arg || anyHoldsNaN rest

end

mutual

theorem equals_self_iff : (tree : Node) → (tree.equals tree = true ↔ tree.holdsNaN = false)
  | .constant value => by
    rw [equals, holdsNaN]
    exact value.strictEquals_self_iff
  | .call operator args => by
    rw [equals, holdsNaN, decide_eq_true rfl, Bool.true_and]
    exact equalsAll_self_iff args

theorem equalsAll_self_iff : (trees : List Node) →
    (equalsAll trees trees = true ↔ anyHoldsNaN trees = false)
  | [] => iff_of_true rfl rfl
  | tree :: rest => by
    rw [equalsAll, anyHoldsNaN, Bool.and_eq_true, Bool.or_eq_false_iff, equals_self_iff tree,
      equalsAll_self_iff rest]

end

/-! ## Once more -/

/-- From the object notation of a built tree the same tree is built, with the same object
notation; the two trees are equal just if no leaf of theirs is NaN. -/
theorem build_toObject_of_build (types : List NodeType) {value : Value} {tree : Node}
    (free : value.isTreeless = true)
    (built : build (Registry.standard.extend types) value = .ok tree) :
    ∃ again, build (Registry.standard.extend types) tree.toObject = .ok again ∧
      again = tree ∧ again.toObject = tree.toObject ∧
      (again.equals tree = true ↔ tree.holdsNaN = false) := by
  have lawful : (Registry.standard.extend types).Lawful :=
    Registry.lawful_extend Registry.lawful_standard types
  have known := known_of_build lawful value free tree built
  exact ⟨tree, build_toObject tree known, rfl, rfl, tree.equals_self_iff⟩

/-- An operator with a built-in name. -/
def ownAny : Signature := ⟨"Any", "OwnAny", ⟨2, some 2⟩, false⟩

/-- A built-in name taken over, over a bare operator and a leaf that is NaN. -/
theorem build_toObject_ownAny :
    ∃ again,
      build (Registry.standard.extend [.operator (.custom ownAny)])
          (Node.call (.custom ownAny) [.call (.builtin .number) [.constant (.text "7")],
            .constant (.number (.float .nan))]).toObject = .ok again ∧
        again = .call (.custom ownAny) [.call (.builtin .number) [.constant (.text "7")],
          .constant (.number (.float .nan))] ∧
        again.toObject = .record [(.text "Any",
          .list [.record [(.text "Number", .text "7")], .float .nan])] ∧
        (again.equals (.call (.custom ownAny) [.call (.builtin .number) [.constant (.text "7")],
            .constant (.number (.float .nan))]) = true ↔
          (Node.call (.custom ownAny) [.call (.builtin .number) [.constant (.text "7")],
            .constant (.number (.float .nan))]).holdsNaN = false) :=
  have built : build (Registry.standard.extend [.operator (.custom ownAny)])
      (.record [(.text "Any", .tuple [.record [(.text "Number", .list [.text "7"])],
        .record [(.text "Constant", .float .nan)]])]) =
      .ok (.call (.custom ownAny) [.call (.builtin .number) [.constant (.text "7")],
        .constant (.number (.float .nan))]) := rfl
  build_toObject_of_build [.operator (.custom ownAny)] rfl built

end Node

end FeatureGates
