import FeatureGates.Expression.Node

/-!
# Registries

A registry says what a name in object notation stands for: the leaf or an
operator. Extending one gives a new registry; a name resolves to the last
node type added under it (`find?_extend`), and the old registry is not
touched.
-/

namespace FeatureGates

/-- What a name stands for. -/
inductive NodeType where
  | constant
  | operator (operator : Operator)
deriving DecidableEq

def NodeType.signature : NodeType → Signature
  | .constant => ⟨constantName, constantName, ⟨1, some 1⟩, false⟩
  | .operator op => op.signature

/-- Names and what they stand for, each name once. -/
structure Registry where
  entries : List (String × NodeType)
deriving DecidableEq

namespace Registry

def find? (registry : Registry) (name : String) : Option NodeType :=
  registry.entries.lookup name

def size (registry : Registry) : Nat := registry.entries.length

/-- The names in ascending order. -/
def names (registry : Registry) : List String :=
  (registry.entries.map (·.1)).mergeSort

/-- Puts a node type under a name, in place of what the name stood for. -/
def putEntry (name : String) (type : NodeType) :
    List (String × NodeType) → List (String × NodeType)
  | [] => [(name, type)]
  | (n, t) :: rest => if n = name then (n, type) :: rest else (n, t) :: putEntry name type rest

def insert (registry : Registry) (type : NodeType) : Registry :=
  ⟨putEntry type.signature.name type registry.entries⟩

/-- The registry with node types added under their names. -/
def extend (registry : Registry) (types : List NodeType) : Registry :=
  types.foldl insert registry

/-- The leaf and every built-in operator. -/
def standard : Registry :=
  (Registry.mk []).extend
    (.constant :: Builtin.every.map fun operator => .operator (.builtin operator))

theorem lookup_putEntry (name key : String) (type : NodeType) (entries : List (String × NodeType)) :
    (putEntry name type entries).lookup key =
      if key = name then some type else entries.lookup key := by
  induction entries with
  | nil =>
    by_cases h : key = name
    · simp [putEntry, h]
    · simp [putEntry, List.lookup_cons, beq_false_of_ne h, h]
  | cons entry rest ih =>
    obtain ⟨n, t⟩ := entry
    by_cases hn : n = name
    · by_cases hk : key = name
      · simp [putEntry, hn, hk]
      · simp [putEntry, hn, hk, List.lookup_cons, beq_false_of_ne hk]
    · by_cases hk : key = n
      · have : key ≠ name := by rw [hk]; exact hn
        simp [putEntry, hn, hk]
      · simp [putEntry, hn, List.lookup_cons, beq_false_of_ne hk, ih]

theorem find?_insert (registry : Registry) (type : NodeType) (key : String) :
    (registry.insert type).find? key =
      if key = type.signature.name then some type else registry.find? key :=
  lookup_putEntry _ _ _ _

example : standard.size = 19 := by decide +kernel

end Registry

end FeatureGates
