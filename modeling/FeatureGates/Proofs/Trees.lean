import FeatureGates.Expression.Build
import FeatureGates.Proofs.Catalog
import FeatureGates.Proofs.Refinement
import FeatureGates.Store.Cell

/-!
# Trees in object notation

A tree without integers too long to write is stored as what it is in object
notation (`Node.toDocument_toStored`). If all its operators are known by
their names and have as many arguments as they take (`Node.Known`), it is
built again from there (`Node.build_toStored`); and what is built from
object notation without ready-made trees is such a tree
(`Node.known_of_build`).
-/

namespace FeatureGates

/-! Powers of natural numbers are the ones of core. -/

attribute [local instance (2000)] instPowNat

/-! ## Documents -/

namespace Scalar

theorem written_of_isShort {s : Scalar} (h : s.isShort = true) : ∃ text, s.written = .ok text := by
  cases s with
  | null => exact ⟨_, rfl⟩
  | bool b => cases b <;> exact ⟨_, rfl⟩
  | text s => exact ⟨_, rfl⟩
  | number n =>
    cases n with
    | float x => exact ⟨_, rfl⟩
    | int n =>
      have small := of_decide_eq_true (p := n.natAbs < 10 ^ Text.digitLimit) h
      refine ⟨toString n, ?_⟩
      show Text.writeInt n = _
      rw [Text.writeInt, if_pos small]

end Scalar

namespace Node

/-- The body of an operator in object notation. -/
def body (signature : Signature) (objects : List Value) : Value :=
  match signature.bare, objects with
  | true, [arg] => arg
  | _, objects => .list objects

theorem toObject_call (operator : Operator) (args : List Node) :
    (call operator args).toObject =
      .record [(.text operator.signature.name, body operator.signature (toObjects args))] := rfl

theorem body_cases (signature : Signature) (objects : List Value) :
    body signature objects = .list objects ∨
      ∃ object, objects = [object] ∧ body signature objects = object := by
  unfold body
  split
  · exact .inr ⟨_, rfl, rfl⟩
  · exact .inl rfl

mutual

theorem toDocument_toObject : (tree : Node) → tree.isShort = true →
    tree.toObject.toDocument = .ok tree.toObject
  | .constant value, h => by
    obtain ⟨text, written⟩ := Scalar.written_of_isShort (s := value) h
    show (do let _ ← value.written; return Value.scalar value) = _
    rw [written]
    rfl
  | .call operator args, h => by
    have all := toDocuments_toObjects args h
    have same : (body operator.signature (toObjects args)).toDocument =
        .ok (body operator.signature (toObjects args)) := by
      rcases body_cases operator.signature (toObjects args) with listed | ⟨object, lone, bare⟩
      · rw [listed, Value.toDocument, all]
        rfl
      · rw [bare]
        rw [lone, Value.toDocuments] at all
        obtain ⟨document, made, rest⟩ := exists_of_bind_eq_ok all
        cases rest
        exact made
    rw [toObject_call, Value.toDocument, Value.toDocumentFields, same]
    rfl

theorem toDocuments_toObjects : (trees : List Node) → areShort trees = true →
    Value.toDocuments (toObjects trees) = .ok (toObjects trees)
  | [], _ => rfl
  | tree :: rest, h => by
    obtain ⟨first, others⟩ := Bool.and_eq_true_iff.1 h
    rw [toObjects, Value.toDocuments, toDocument_toObject tree first,
      toDocuments_toObjects rest others]
    rfl

end

theorem toStored_eq_record (tree : Node) : tree.toStored = .record tree.storedEntries := by
  cases tree <;> rfl

theorem storedEntries_ne_nil (tree : Node) : tree.storedEntries ≠ [] := by
  cases tree <;> exact List.cons_ne_nil _ _

/-- A tree is stored as it is. -/
theorem toDocument_toStored {tree : Node} (h : tree.isShort = true) :
    tree.toStored.toDocument = .ok tree.toStored := by
  cases tree with
  | call operator args => exact toDocument_toObject (.call operator args) h
  | constant value =>
    have same := toDocument_toObject (.constant value) h
    have same : (Value.scalar value).toDocument = .ok (.scalar value) := same
    show (Value.record [(.text constantName, .scalar value)]).toDocument = _
    rw [Value.toDocument, Value.toDocumentFields, same]
    rfl

end Node

/-! ## Registries -/

namespace Registry

/-- Every name stands for a node type of that name. -/
def Lawful (registry : Registry) : Prop :=
  ∀ name type, registry.find? name = some type → type.signature.name = name

theorem lawful_insert {registry : Registry} (h : registry.Lawful) (type : NodeType) :
    (registry.insert type).Lawful := by
  intro name other found
  rw [find?_insert] at found
  split at found
  · rename_i own
    cases found
    exact own.symm
  · exact h name other found

theorem lawful_extend {registry : Registry} (h : registry.Lawful) (types : List NodeType) :
    (registry.extend types).Lawful := by
  induction types generalizing registry with
  | nil => exact h
  | cons type rest ih => exact ih (lawful_insert h type)

theorem lawful_standard : standard.Lawful := by
  refine lawful_extend (fun name type found => ?_) _
  cases found

/-- A name that no added node type has goes on to stand for what it did. -/
theorem find?_extend_of_ne {registry : Registry} {types : List NodeType} {name : String}
    (h : ∀ type ∈ types, type.signature.name ≠ name) :
    (registry.extend types).find? name = registry.find? name := by
  induction types generalizing registry with
  | nil => rfl
  | cons type rest ih =>
    have later : ((registry.insert type).extend rest).find? name =
        (registry.insert type).find? name :=
      ih fun other mem => h other (List.mem_cons_of_mem type mem)
    show ((registry.insert type).extend rest).find? name = _
    rw [later, find?_insert, if_neg fun own => h type List.mem_cons_self own.symm]

theorem find?_standard_constant : standard.find? constantName = some .constant := by decide +kernel

end Registry

/-! ## Values without trees -/

namespace Value

mutual

/-- No part that building looks at is a ready-made tree. -/
def isTreeless : Value → Bool
  | .node _ => false
  | .list items => areTreeless items
  | .tuple items => areTreeless items
  | .record entries => areTreelessEntries entries
  | _ => true

def areTreeless : List Value → Bool
  | [] => true
  | item :: rest => isTreeless item && areTreeless rest

def areTreelessEntries : List (Value × Value) → Bool
  | [] => true
  | (_, value) :: rest => isTreeless value && areTreelessEntries rest

end

theorem isTreeless_of_mem {items : List Value} (h : areTreeless items = true) :
    ∀ item ∈ items, item.isTreeless = true := by
  induction items with
  | nil => exact fun _ mem => absurd mem List.not_mem_nil
  | cons first rest ih =>
    obtain ⟨free, others⟩ := Bool.and_eq_true_iff.1 h
    intro item mem
    rcases List.mem_cons.1 mem with rfl | mem
    · exact free
    · exact ih others item mem

end Value

/-! ## Building again -/

namespace Node

mutual

/-- All operators are those that their names stand for, over as many arguments as they take. -/
def Known (registry : Registry) : Node → Prop
  | .constant _ => True
  | .call operator args =>
    registry.find? operator.signature.name = some (.operator operator) ∧
      operator.signature.arity.admits args.length = true ∧ AllKnown registry args

def AllKnown (registry : Registry) : List Node → Prop
  | [] => True
  | arg :: rest => Known registry arg ∧ AllKnown registry rest

end

theorem length_toObjects (trees : List Node) : (toObjects trees).length = trees.length := by
  induction trees with
  | nil => rfl
  | cons tree rest ih => rw [toObjects, List.length_cons, ih, List.length_cons]

variable {registry : Registry}

theorem argumentsOf_cases (body : Value) :
    (∃ items, body = .list items) ∨ (∃ items, body = .tuple items) ∨
      argumentsOf body = [body] ∧ (∀ items, body = .list items → False) ∧
        ∀ items, body = .tuple items → False := by
  cases body with
  | list items => exact .inl ⟨items, rfl⟩
  | tuple items => exact .inr (.inl ⟨items, rfl⟩)
  | _ => exact .inr (.inr ⟨rfl, nofun, nofun⟩)

/-- What is parsed of an entry comes with the arguments in its body. -/
theorem parseEntry_bind {α : Type} {key body : Value}
    {f g : NodeType × List Value → Except Failure α}
    (h : ∀ type, f (type, argumentsOf body) = g (type, argumentsOf body)) :
    (parseEntry registry key body >>= f) = (parseEntry registry key body >>= g) := by
  unfold parseEntry
  cases resolve registry key with
  | error failure => rfl
  | ok type =>
    have checked : (do
        let _ ← checkArity type.signature (argumentsOf body).length
        return (type, argumentsOf body)) >>= f = (do
        let _ ← checkArity type.signature (argumentsOf body).length
        return (type, argumentsOf body)) >>= g := by
      cases checkArity type.signature (argumentsOf body).length with
      | error failure => rfl
      | ok admitted => exact h type
    exact checked

/-- However its body is written, an operator is built from its arguments. -/
theorem build_entry (registry : Registry) (key body : Value) :
    build registry (.record [(key, body)]) = (do
      match ← parseEntry registry key body with
      | (.constant, args) => buildLeaf args
      | (.operator operator, args) => return .call operator (← buildAll registry args)) := by
  rcases argumentsOf_cases body with ⟨items, rfl⟩ | ⟨items, rfl⟩ | ⟨lone, noList, noTuple⟩
  · rw [build]
    exact parseEntry_bind fun type => by cases type <;> rfl
  · rw [build]
    exact parseEntry_bind fun type => by cases type <;> rfl
  · rw [build]
    · refine parseEntry_bind ?_
      intro type
      rw [lone]
      cases type with
      | constant =>
        show leaf body = buildLeaf [body]
        rw [buildLeaf]
      | operator operator =>
        simp only [buildAll]
        cases build registry body <;> rfl
    · exact noList
    · exact noTuple

/-- A known name over as many arguments as it takes is parsed. -/
theorem parseEntry_of_admits {name : String} {type : NodeType} {body : Value}
    (found : registry.find? name = some type)
    (arity : type.signature.arity.admits (argumentsOf body).length = true) :
    parseEntry registry (.text name) body = .ok (type, argumentsOf body) := by
  have admitted : checkArity type.signature (argumentsOf body).length = .ok () := if_pos arity
  simp only [parseEntry, resolve, found]
  show (do let _ ← checkArity type.signature (argumentsOf body).length; _) = _
  rw [admitted]
  rfl

/-- The arguments of an operator are read off its body. -/
theorem argumentsOf_body (signature : Signature) (args : List Node) :
    argumentsOf (body signature (toObjects args)) = toObjects args := by
  rcases body_cases signature (toObjects args) with listed | ⟨object, lone, bare⟩
  · rw [listed]
    rfl
  · rw [bare, lone]
    cases args with
    | nil => cases lone
    | cons arg rest =>
      obtain rfl : arg.toObject = object := by
        injection lone
      cases arg <;> rfl

mutual

theorem build_toObject : (tree : Node) → tree.Known registry →
    build registry tree.toObject = .ok tree
  | .constant value, _ => by rw [toObject, build]
  | .call operator args, ⟨found, arity, known⟩ => by
    have all := buildAll_toObjects args known
    rw [← length_toObjects, ← argumentsOf_body operator.signature] at arity
    rw [toObject_call, build_entry, parseEntry_of_admits found arity, argumentsOf_body]
    show (do return Node.call operator (← buildAll registry (toObjects args))) = _
    rw [all]
    rfl

theorem buildAll_toObjects : (trees : List Node) → AllKnown registry trees →
    buildAll registry (toObjects trees) = .ok trees
  | [], _ => by rw [toObjects, buildAll]
  | tree :: rest, ⟨first, others⟩ => by
    rw [toObjects, buildAll, build_toObject tree first, buildAll_toObjects rest others]
    rfl

end

/-- What is stored is built again, also where it is a lone leaf. -/
theorem build_toStored {tree : Node} (h : tree.Known registry)
    (constant : registry.find? constantName = some .constant) :
    build registry tree.toStored = .ok tree := by
  cases tree with
  | call operator args => exact build_toObject (.call operator args) h
  | constant value =>
    show build registry (.record [(.text constantName, .scalar value)]) = _
    rw [build_entry]
    simp only [parseEntry, resolve, constant]
    rfl

/-! ## What is built -/

theorem isTreeless_argumentsOf {body : Value} (h : body.isTreeless = true) :
    ∀ arg ∈ argumentsOf body, arg.isTreeless = true := by
  rcases argumentsOf_cases body with ⟨items, rfl⟩ | ⟨items, rfl⟩ | ⟨lone, -, -⟩
  · exact Value.isTreeless_of_mem h
  · exact Value.isTreeless_of_mem h
  · rw [lone]
    intro arg mem
    rw [List.mem_singleton.1 mem]
    exact h

/-- The arguments of an entry are smaller than the record of it. -/
theorem sizeOf_lt_of_mem_argumentsOf {key body arg : Value} (mem : arg ∈ argumentsOf body) :
    sizeOf arg < sizeOf (Value.record [(key, body)]) := by
  have record : sizeOf body < sizeOf (Value.record [(key, body)]) := by
    simp only [Value.record.sizeOf_spec, List.cons.sizeOf_spec, Prod.mk.sizeOf_spec]
    omega
  rcases argumentsOf_cases body with ⟨items, rfl⟩ | ⟨items, rfl⟩ | ⟨lone, -, -⟩
  · have inside := List.sizeOf_lt_of_mem (show arg ∈ items from mem)
    rw [Value.list.sizeOf_spec] at record
    omega
  · have inside := List.sizeOf_lt_of_mem (show arg ∈ items from mem)
    rw [Value.tuple.sizeOf_spec] at record
    omega
  · rw [lone] at mem
    rw [List.mem_singleton.1 mem]
    exact record

theorem allKnown_of_buildAll {values : List Value} {trees : List Node}
    (h : ∀ value ∈ values, ∀ tree, build registry value = .ok tree → tree.Known registry)
    (built : buildAll registry values = .ok trees) :
    AllKnown registry trees ∧ trees.length = values.length := by
  induction values generalizing trees with
  | nil =>
    rw [buildAll] at built
    cases built
    exact ⟨trivial, rfl⟩
  | cons value rest ih =>
    rw [buildAll] at built
    obtain ⟨tree, first, built⟩ := exists_of_bind_eq_ok built
    obtain ⟨others, later, built⟩ := exists_of_bind_eq_ok built
    cases built
    obtain ⟨known, length⟩ := ih (fun v mem => h v (List.mem_cons_of_mem value mem)) later
    exact ⟨⟨h value List.mem_cons_self tree first, known⟩, congrArg (· + 1) length⟩

theorem known_of_leaf {value : Value} {tree : Node} (h : leaf value = .ok tree) :
    tree.Known registry := by
  unfold leaf at h
  split at h
  · cases h
    exact trivial
  · obtain ⟨text, -, thrown⟩ := exists_of_bind_eq_ok h
    cases thrown

theorem parseEntry_eq_ok {key body : Value} {type : NodeType} {args : List Value}
    (h : parseEntry registry key body = .ok (type, args)) :
    args = argumentsOf body ∧ type.signature.arity.admits args.length = true ∧
      ∃ name, key = .text name ∧ registry.find? name = some type := by
  obtain ⟨resolved, found, h⟩ := exists_of_bind_eq_ok h
  obtain ⟨_, checked, h⟩ := exists_of_bind_eq_ok h
  cases h
  refine ⟨rfl, ?_, ?_⟩
  · unfold checkArity at checked
    split at checked
    · assumption
    · cases checked
  · unfold resolve at found
    split at found
    · split at found
      · rename_i name _ _ there
        cases found
        exact ⟨name, rfl, there⟩
      · cases found
    · obtain ⟨text, -, thrown⟩ := exists_of_bind_eq_ok found
      cases thrown

/-- Nothing is built but from a scalar, a tree or a record of one entry. -/
theorem build_eq_ok {value : Value} {tree : Node} (h : build registry value = .ok tree) :
    (∃ s, value = .scalar s ∧ tree = .constant s) ∨ value = .node tree ∨
      ∃ key body, value = .record [(key, body)] := by
  cases value with
  | scalar s =>
    rw [build] at h
    cases h
    exact .inl ⟨s, rfl, rfl⟩
  | node t =>
    rw [build] at h
    cases h
    exact .inr (.inl rfl)
  | record entries =>
    match entries with
    | [(key, body)] => exact .inr (.inr ⟨key, body, rfl⟩)
    | [] =>
      rw [build] at h
      · obtain ⟨failure, -, thrown⟩ := exists_of_bind_eq_ok h
        cases thrown
      all_goals nofun
    | _ :: _ :: _ =>
      rw [build] at h
      · obtain ⟨failure, -, thrown⟩ := exists_of_bind_eq_ok h
        cases thrown
      all_goals nofun
  | _ =>
    rw [build] at h
    · obtain ⟨text, -, thrown⟩ := exists_of_bind_eq_ok h
      cases thrown
    all_goals
      intros
      contradiction

/-- What is built from object notation without trees is known. -/
theorem known_of_build (lawful : registry.Lawful) (value : Value) (free : value.isTreeless = true)
    (tree : Node) (h : build registry value = .ok tree) : tree.Known registry := by
  rcases build_eq_ok h with ⟨s, -, rfl⟩ | rfl | ⟨key, body, record⟩
  · exact trivial
  · cases free
  · rw [record] at free
    rw [record, build_entry] at h
    obtain ⟨⟨type, args⟩, parsed, h⟩ := exists_of_bind_eq_ok h
    obtain ⟨rfl, arity, name, -, found⟩ := parseEntry_eq_ok parsed
    cases type with
    | constant =>
      have h : buildLeaf (argumentsOf body) = .ok tree := h
      unfold buildLeaf at h
      split at h
      · exact known_of_leaf h
      · cases h
    | operator operator =>
      obtain ⟨trees, built, made⟩ := exists_of_bind_eq_ok h
      cases made
      have free : body.isTreeless = true := (Bool.and_eq_true_iff.1 free).1
      have smaller (arg : Value) (mem : arg ∈ argumentsOf body) :
          sizeOf arg < sizeOf value := record ▸ sizeOf_lt_of_mem_argumentsOf mem
      obtain ⟨known, length⟩ := allKnown_of_buildAll (fun arg mem tree built =>
        known_of_build lawful arg (isTreeless_argumentsOf free arg mem) tree built) built
      have named : operator.signature.name = name := lawful name _ found
      exact ⟨named ▸ found, length ▸ arity, known⟩
termination_by sizeOf value
decreasing_by exact smaller arg mem

end Node

end FeatureGates
