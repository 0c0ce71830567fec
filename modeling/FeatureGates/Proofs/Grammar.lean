import FeatureGates.Proofs.Literals

/-!
# The grammar of object notation

Which values trees are built from, said without building: `Acceptable` has
one rule per form. A value that is not acceptable is refused, and the
failure tells of the first part that is at fault (`build_iff_acceptable`),
parts being taken in the order in which they are read: a value before its
arguments, arguments from left to right (`preorder`).

That a value is acceptable just if it is built holds of every value there
is. What a refusal says is shown of literals only: the failure quotes what
it refuses, and quoting fails by itself on an integer too long to write.
-/

namespace FeatureGates

namespace Node

/-! ## Acceptable values -/

section

variable (registry : Registry)

/-- What a tree can be built from. -/
inductive Acceptable : Value → Prop
  | scalar (s : Scalar) : Acceptable (.scalar s)
  | node (tree : Node) : Acceptable (.node tree)
  | constant {name : String} {body : Value} {s : Scalar}
      (found : registry.find? name = some .constant) (lone : argumentsOf body = [.scalar s]) :
      Acceptable (.record [(.text name, body)])
  | call {name : String} {body : Value} {operator : Operator}
      (found : registry.find? name = some (.operator operator))
      (arity : operator.signature.arity.admits (argumentsOf body).length = true)
      (args : ∀ arg ∈ argumentsOf body, Acceptable arg) :
      Acceptable (.record [(.text name, body)])

/-- The node type that a key is the name of. -/
def typeOf? : Value → Option NodeType
  | .text name => registry.find? name
  | _ => none

/-- A record of one entry whose key is no known name. -/
def hasUnknownName : Value → Bool
  | .record [(key, _)] => (typeOf? registry key).isNone
  | _ => false

/-- A scalar, which needs no building. -/
def isScalar : Value → Bool
  | .scalar _ => true
  | _ => false

/-- At fault by itself, whatever there is inside its arguments: not in one of the forms, of more
or less than one key, of an unknown name, over too few or too many arguments, or a leaf of what
is no scalar. -/
def offends : Value → Bool
  | .scalar _ => false
  | .node _ => false
  | .record [(key, body)] =>
    match typeOf? registry key with
    | none => true
    | some type =>
      !type.signature.arity.admits (argumentsOf body).length ||
        decide (type = .constant) && !(argumentsOf body).all isScalar
  | _ => true

/-- The code of the failure that a part at fault is refused with. -/
def faultCode (part : Value) : String :=
  if hasUnknownName registry part then "UNKNOWN_EXPRESSION" else "INVALID_EXPRESSION"

end

mutual

/-- A value and the parts that are read of it, in the order in which they are read. -/
def preorder : Value → List Value
  | .record [(key, .list items)] => .record [(key, .list items)] :: preorderAll items
  | .record [(key, .tuple items)] => .record [(key, .tuple items)] :: preorderAll items
  | .record [(key, body)] => .record [(key, body)] :: preorder body
  | value => [value]

def preorderAll : List Value → List Value
  | [] => []
  | item :: rest => preorder item ++ preorderAll rest

end

theorem preorderAll_eq (items : List Value) : preorderAll items = items.flatMap preorder := by
  induction items with
  | nil => rw [preorderAll, List.flatMap_nil]
  | cons item rest ih => rw [preorderAll, ih, List.flatMap_cons]

/-- However its body is written, a record of one entry comes before its arguments. -/
theorem preorder_entry (key body : Value) :
    preorder (.record [(key, body)]) =
      .record [(key, body)] :: (argumentsOf body).flatMap preorder := by
  rcases argumentsOf_cases body with ⟨items, rfl⟩ | ⟨items, rfl⟩ | ⟨lone, noList, noTuple⟩
  · rw [preorder, preorderAll_eq]
    rfl
  · rw [preorder, preorderAll_eq]
    rfl
  · rw [preorder, lone, List.flatMap_singleton]
    · exact noList
    · exact noTuple

theorem preorder_scalar (s : Scalar) : preorder (.scalar s) = [.scalar s] := by
  rw [preorder]
  all_goals nofun

theorem preorder_node (tree : Node) : preorder (.node tree) = [.node tree] := by
  rw [preorder]
  all_goals nofun

/-- A value comes before all its parts. -/
theorem preorder_head (value : Value) : ∃ rest, preorder value = value :: rest := by
  cases value with
  | record entries =>
    match entries with
    | [(key, body)] => exact ⟨_, preorder_entry key body⟩
    | [] => exact ⟨[], by rw [preorder]; all_goals nofun⟩
    | _ :: _ :: _ => exact ⟨[], by rw [preorder]; all_goals nofun⟩
  | _ => exact ⟨[], by rw [preorder]; all_goals nofun⟩

variable {registry : Registry}

theorem find?_preorder_of_offends {value : Value} (h : offends registry value = true) :
    (preorder value).find? (offends registry) = some value := by
  obtain ⟨rest, first⟩ := preorder_head value
  rw [first, List.find?_cons_of_pos h]

/-! ## What is acceptable is built -/

/-- Nothing is at fault in an acceptable value. -/
theorem Acceptable.find?_preorder {value : Value} (h : Acceptable registry value) :
    (preorder value).find? (offends registry) = none := by
  induction h with
  | scalar s => rw [preorder_scalar]; rfl
  | node tree => rw [preorder_node]; rfl
  | @constant name body s found lone =>
    have sound : offends registry (.record [(.text name, body)]) = false := by
      simp only [offends, typeOf?, found, lone]
      rfl
    rw [preorder_entry, List.find?_cons_of_neg (Bool.eq_false_iff.1 sound), lone,
      List.flatMap_singleton, preorder_scalar]
    rfl
  | @call name body operator found arity args ih =>
    have sound : offends registry (.record [(.text name, body)]) = false := by
      simp only [offends, typeOf?, found, NodeType.signature, arity]
      rfl
    rw [preorder_entry, List.find?_cons_of_neg (Bool.eq_false_iff.1 sound), List.find?_eq_none]
    intro part mem
    obtain ⟨arg, among, inside⟩ := List.mem_flatMap.1 mem
    exact List.find?_eq_none.1 (ih arg among) part inside

theorem buildAll_eq_ok_iff {values : List Value} :
    (∃ trees, buildAll registry values = .ok trees) ↔
      ∀ value ∈ values, ∃ tree, build registry value = .ok tree := by
  induction values with
  | nil => exact iff_of_true ⟨[], by rw [buildAll]⟩ fun _ mem => absurd mem List.not_mem_nil
  | cons value rest ih =>
    rw [List.forall_mem_cons, ← ih, buildAll]
    constructor
    · rintro ⟨trees, built⟩
      obtain ⟨tree, first, built⟩ := exists_of_bind_eq_ok built
      obtain ⟨others, later, -⟩ := exists_of_bind_eq_ok built
      exact ⟨⟨tree, first⟩, others, later⟩
    · rintro ⟨⟨tree, first⟩, others, later⟩
      rw [first, later]
      exact ⟨_, rfl⟩

theorem leaf_eq_ok {value : Value} {tree : Node} (h : leaf value = .ok tree) :
    ∃ s, value = .scalar s := by
  unfold leaf at h
  split at h
  · exact ⟨_, rfl⟩
  · obtain ⟨text, -, thrown⟩ := exists_of_bind_eq_ok h
    cases thrown

/-- The arguments of a leaf are one. -/
theorem lone_of_admits {args : List Value}
    (h : NodeType.constant.signature.arity.admits args.length = true) : ∃ arg, args = [arg] := by
  obtain ⟨least, most⟩ := Bool.and_eq_true_iff.1 h
  exact List.length_eq_one_iff.1
    (Nat.le_antisymm (of_decide_eq_true most) (of_decide_eq_true least))

theorem Acceptable.build {value : Value} (h : Acceptable registry value) :
    ∃ tree, Node.build registry value = .ok tree := by
  induction h with
  | scalar s => exact ⟨.constant s, by rw [Node.build]⟩
  | node tree => exact ⟨tree, by rw [Node.build]⟩
  | @constant name body s found lone =>
    have arity : NodeType.constant.signature.arity.admits (argumentsOf body).length = true := by
      rw [lone]
      rfl
    rw [build_entry, parseEntry_of_admits found arity, lone]
    exact ⟨.constant s, rfl⟩
  | @call name body operator found arity args ih =>
    obtain ⟨trees, built⟩ := buildAll_eq_ok_iff.2 ih
    rw [build_entry, parseEntry_of_admits found arity]
    show ∃ tree, (do return Node.call operator (← buildAll registry (argumentsOf body))) = _
    rw [built]
    exact ⟨_, rfl⟩

/-- What is built is acceptable, whatever the value. -/
theorem acceptable_of_build (value : Value) (tree : Node) (h : build registry value = .ok tree) :
    Acceptable registry value := by
  rcases build_eq_ok h with ⟨s, rfl, -⟩ | rfl | ⟨key, body, record⟩
  · exact .scalar s
  · exact .node tree
  · rw [record, build_entry] at h
    obtain ⟨⟨type, args⟩, parsed, h⟩ := exists_of_bind_eq_ok h
    obtain ⟨rfl, arity, name, rfl, found⟩ := parseEntry_eq_ok parsed
    cases type with
    | constant =>
      obtain ⟨arg, lone⟩ := lone_of_admits arity
      have h : buildLeaf (argumentsOf body) = .ok tree := h
      rw [lone, buildLeaf] at h
      obtain ⟨s, rfl⟩ := leaf_eq_ok h
      exact record ▸ .constant found lone
    | operator operator =>
      obtain ⟨trees, built, -⟩ := exists_of_bind_eq_ok h
      have smaller (arg : Value) (mem : arg ∈ argumentsOf body) :
          sizeOf arg < sizeOf value := record ▸ sizeOf_lt_of_mem_argumentsOf mem
      refine record ▸ .call found arity fun arg mem => ?_
      obtain ⟨tree, built⟩ := buildAll_eq_ok_iff.1 ⟨trees, built⟩ arg mem
      exact acceptable_of_build arg tree built
termination_by sizeOf value
decreasing_by exact smaller arg mem

theorem exists_build_iff_acceptable {value : Value} :
    (∃ tree, build registry value = .ok tree) ↔ Acceptable registry value :=
  ⟨fun ⟨tree, built⟩ => acceptable_of_build value tree built, Acceptable.build⟩

/-! ## What is not acceptable is refused -/

/-- The arguments up to the first that is not built are acceptable. -/
theorem buildAll_eq_error {values : List Value} {failure : Failure}
    (h : buildAll registry values = .error failure) :
    ∃ before value after, values = before ++ value :: after ∧
      (∀ early ∈ before, Acceptable registry early) ∧ build registry value = .error failure := by
  induction values with
  | nil => rw [buildAll] at h; cases h
  | cons value rest ih =>
    rw [buildAll] at h
    cases first : build registry value with
    | error other =>
      rw [first] at h
      cases h
      exact ⟨[], value, rest, rfl, fun _ mem => absurd mem List.not_mem_nil, first⟩
    | ok tree =>
      rw [first] at h
      have h : (do return tree :: (← buildAll registry rest)) = .error failure := h
      cases later : buildAll registry rest with
      | ok trees => rw [later] at h; cases h
      | error other =>
        rw [later] at h
        cases h
        obtain ⟨before, value', after, rfl, early, failed⟩ := ih later
        exact ⟨value :: before, value', after, rfl,
          List.forall_mem_cons.2 ⟨acceptable_of_build value tree first, early⟩, failed⟩

/-- The first part at fault of the arguments is that of the first argument not to be built. -/
theorem find?_flatMap_preorder {before after : List Value} {value part : Value}
    (early : ∀ value ∈ before, Acceptable registry value)
    (found : (preorder value).find? (offends registry) = some part) :
    ((before ++ value :: after).flatMap preorder).find? (offends registry) = some part := by
  have sound : (before.flatMap preorder).find? (offends registry) = none := by
    rw [List.find?_eq_none]
    intro part mem
    obtain ⟨value, among, inside⟩ := List.mem_flatMap.1 mem
    exact List.find?_eq_none.1 (early value among).find?_preorder part inside
  rw [List.flatMap_append, List.flatMap_cons, List.find?_append, sound, Option.none_or,
    List.find?_append, found, Option.some_or]

/-- Why and in which words a literal is refused that is not built. -/
def Refused (registry : Registry) (value : Value) (failure : Failure) : Prop :=
  ∃ part, (preorder value).find? (offends registry) = some part ∧
    failure.category = .flag ∧ failure.code? = some (faultCode registry part)

/-- A value is refused for itself if it is at fault. -/
theorem refused_of_offends {value : Value} {failure : Failure}
    (offending : offends registry value = true) (flag : failure.category = .flag)
    (code : failure.code? = some (faultCode registry value)) : Refused registry value failure :=
  ⟨value, find?_preorder_of_offends offending, flag, code⟩

theorem isLiteral_argumentsOf {body : Value} (h : body.isLiteral = true) :
    ∀ arg ∈ argumentsOf body, arg.isLiteral = true := by
  rcases argumentsOf_cases body with ⟨items, rfl⟩ | ⟨items, rfl⟩ | ⟨lone, -, -⟩
  · exact Value.areLiterals_iff.1 h
  · exact Value.areLiterals_iff.1 h
  · rw [lone]
    exact List.forall_mem_singleton.2 h

theorem refused_of_notAnExpression {value : Value} {failure : Failure}
    (literal : value.isLiteral = true) (offending : offends registry value = true)
    (known : hasUnknownName registry value = false)
    (h : (do throw (.notAnExpression (← value.written)) : Except Failure Node) = .error failure) :
    Refused registry value failure := by
  obtain ⟨text, quoted⟩ := value.written_of_isLiteral literal
  rw [quoted] at h
  cases h
  exact refused_of_offends offending rfl (by rw [faultCode, known]; rfl)

theorem refused_of_wrongKeyCount {entries : Entries} {failure : Failure}
    (literal : (Value.record entries).isLiteral = true)
    (offending : offends registry (.record entries) = true)
    (known : hasUnknownName registry (.record entries) = false)
    (h : (do throw (← wrongKeyCount entries) : Except Failure Node) = .error failure) :
    Refused registry (.record entries) failure := by
  obtain ⟨keys, quoted⟩ := wrongKeyCount_of_areLiteralEntries literal
  rw [quoted] at h
  cases h
  exact refused_of_offends offending rfl (by rw [faultCode, known]; rfl)

/-- A leaf of what is no scalar is refused for itself. -/
theorem refused_of_leaf {name : String} {body arg : Value} {failure : Failure}
    (found : registry.find? name = some .constant) (lone : argumentsOf body = [arg])
    (literal : arg.isLiteral = true) (h : leaf arg = .error failure) :
    Refused registry (.record [(.text name, body)]) failure := by
  unfold leaf at h
  split at h
  · cases h
  · rename_i noScalar
    obtain ⟨text, quoted⟩ := arg.written_of_isLiteral literal
    rw [quoted] at h
    cases h
    have outside : isScalar arg = false := by
      unfold isScalar
      split
      · exact absurd rfl (noScalar _)
      · rfl
    refine refused_of_offends ?_ rfl ?_
    · simp [offends, typeOf?, found, lone, outside]
    · simp [faultCode, hasUnknownName, typeOf?, found]
      rfl

theorem parseEntry_of_unknown {name : String} {body : Value} (h : registry.find? name = none) :
    parseEntry registry (.text name) body = .error (.unknownOperator name) := by
  simp only [parseEntry, resolve, h]
  rfl

theorem parseEntry_of_not_admits {name : String} {type : NodeType} {body : Value}
    (found : registry.find? name = some type)
    (arity : ¬type.signature.arity.admits (argumentsOf body).length = true) :
    parseEntry registry (.text name) body = .error
      (.wrongArgumentCount type.signature.name type.signature.arity
        (argumentsOf body).length) := by
  have refused : checkArity type.signature (argumentsOf body).length = .error
      (.wrongArgumentCount type.signature.name type.signature.arity (argumentsOf body).length) :=
    if_neg arity
  simp only [parseEntry, resolve, found]
  show (do let _ ← checkArity type.signature (argumentsOf body).length; _) = _
  rw [refused]
  rfl

/-- An operator over as many arguments as it takes is refused for what the first argument that
is not built is refused for. -/
theorem refused_of_argument {name : String} {body arg : Value} {operator : Operator}
    {before after : List Value} {failure : Failure}
    (found : registry.find? name = some (.operator operator))
    (arity : operator.signature.arity.admits (argumentsOf body).length = true)
    (args : argumentsOf body = before ++ arg :: after)
    (early : ∀ value ∈ before, Acceptable registry value) (h : Refused registry arg failure) :
    Refused registry (.record [(.text name, body)]) failure := by
  obtain ⟨part, first, flag, code⟩ := h
  have sound : offends registry (.record [(.text name, body)]) = false := by
    simp only [offends, typeOf?, found, NodeType.signature, arity]
    rfl
  refine ⟨part, ?_, flag, code⟩
  rw [preorder_entry, List.find?_cons_of_neg (Bool.eq_false_iff.1 sound), args]
  exact find?_flatMap_preorder early first

/-- One entry is refused for its first part at fault if its arguments are. -/
theorem refused_of_entry {name : String} {body : Value} {failure : Failure}
    (literal : ∀ arg ∈ argumentsOf body, arg.isLiteral = true)
    (args : ∀ arg ∈ argumentsOf body, ∀ failure, build registry arg = .error failure →
      Refused registry arg failure)
    (h : build registry (.record [(.text name, body)]) = .error failure) :
    Refused registry (.record [(.text name, body)]) failure := by
  rw [build_entry] at h
  cases found : registry.find? name with
  | none =>
    rw [parseEntry_of_unknown found] at h
    cases h
    refine refused_of_offends ?_ rfl ?_
    · simp only [offends, typeOf?, found]
    · simp only [faultCode, hasUnknownName, typeOf?, found]
      rfl
  | some type =>
    by_cases arity : type.signature.arity.admits (argumentsOf body).length = true
    · rw [parseEntry_of_admits found arity] at h
      cases type with
      | constant =>
        obtain ⟨arg, lone⟩ := lone_of_admits arity
        have h : buildLeaf (argumentsOf body) = .error failure := h
        rw [lone, buildLeaf] at h
        rw [lone] at literal
        exact refused_of_leaf found lone (literal arg List.mem_cons_self) h
      | operator operator =>
        have h : (do return Node.call operator (← buildAll registry (argumentsOf body))) =
            .error failure := h
        cases built : buildAll registry (argumentsOf body) with
        | ok trees => rw [built] at h; cases h
        | error other =>
          rw [built] at h
          cases h
          obtain ⟨before, arg, after, split, early, failed⟩ := buildAll_eq_error built
          have among : arg ∈ argumentsOf body :=
            split ▸ List.mem_append_right before List.mem_cons_self
          exact refused_of_argument found arity split early (args arg among failure failed)
    · rw [parseEntry_of_not_admits found arity] at h
      cases h
      refine refused_of_offends ?_ rfl ?_
      · simp [offends, typeOf?, found, arity]
      · simp only [faultCode, hasUnknownName, typeOf?, found]
        rfl

/-- A literal that is not built is refused for its first part at fault. -/
theorem refused_of_build (value : Value) (literal : value.isLiteral = true) (failure : Failure)
    (h : build registry value = .error failure) : Refused registry value failure := by
  cases whole : value with
  | scalar s => rw [whole, build] at h; cases h
  | node tree => rw [whole, build] at h; cases h
  | list items =>
    rw [whole] at h literal
    rw [build] at h
    · exact refused_of_notAnExpression literal rfl rfl h
    all_goals
      intros
      contradiction
  | tuple items =>
    rw [whole] at h literal
    rw [build] at h
    · exact refused_of_notAnExpression literal rfl rfl h
    all_goals
      intros
      contradiction
  | record entries =>
    rw [whole] at h literal
    match entries with
    | [(key, body)] =>
      obtain ⟨isText, inside⟩ := Bool.and_eq_true_iff.1 (Bool.and_eq_true_iff.1 literal).1
      obtain ⟨name, rfl⟩ := Value.eq_text_of_isText isText
      have inside := isLiteral_argumentsOf inside
      have smaller (arg : Value) (mem : arg ∈ argumentsOf body) : sizeOf arg < sizeOf value :=
        whole ▸ sizeOf_lt_of_mem_argumentsOf mem
      exact refused_of_entry inside
        (fun arg mem failure failed => refused_of_build arg (inside arg mem) failure failed) h
    | [] =>
      rw [build] at h
      · exact refused_of_wrongKeyCount literal rfl rfl h
      all_goals nofun
    | _ :: _ :: _ =>
      rw [build] at h
      · exact refused_of_wrongKeyCount literal rfl rfl h
      all_goals nofun
  | _ => rw [whole] at literal; cases literal
termination_by sizeOf value
decreasing_by exact smaller arg mem

/-- Trees are built from the acceptable values. Of another literal the first part at fault in the
order of reading is the reason of the refusal, and only an unknown name is refused as such. -/
theorem build_iff_acceptable (registry : Registry) {value : Value}
    (literal : value.isLiteral = true) :
    ((∃ tree, build registry value = .ok tree) ↔ Acceptable registry value) ∧
      (¬Acceptable registry value → ∃ failure part, build registry value = .error failure ∧
        (preorder value).find? (offends registry) = some part ∧ failure.category = .flag ∧
        failure.code? = some
          (if hasUnknownName registry part then "UNKNOWN_EXPRESSION"
            else "INVALID_EXPRESSION")) := by
  refine ⟨exists_build_iff_acceptable, fun refused => ?_⟩
  cases built : build registry value with
  | ok tree => exact absurd (acceptable_of_build value tree built) refused
  | error failure =>
    obtain ⟨part, first, flag, code⟩ := refused_of_build value literal failure built
    exact ⟨failure, part, rfl, first, flag, code⟩

/-- A record of an unknown name among the arguments, before a list that is no expression. -/
def misnamed : Value :=
  .record [(.text "All", .list [.int 1, .record [(.text "Nope", .list [.emptyRecord])], .list []])]

theorem build_misnamed :
    ∃ failure part, build .standard misnamed = .error failure ∧
      (preorder misnamed).find? (offends .standard) = some part ∧ failure.category = .flag ∧
      failure.code? = some
        (if hasUnknownName .standard part then "UNKNOWN_EXPRESSION" else "INVALID_EXPRESSION") := by
  have literal : misnamed.isLiteral = true := by decide +kernel
  obtain ⟨accepted, refused⟩ := build_iff_acceptable .standard literal
  refine refused fun acceptable => ?_
  obtain ⟨tree, built⟩ := accepted.2 acceptable
  have failed : build .standard misnamed = .error (.unknownOperator "Nope") := rfl
  rw [failed] at built
  cases built

end Node

end FeatureGates
