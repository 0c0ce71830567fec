import FeatureGates.Proofs.Trees

/-!
# Extending a registry

Extending a registry changes what the added names stand for and nothing
else: a literal in which none of them is a key is built as before, or
refused as before (`NodeTypes.extend_conservative`).

A node type that a caller adds may count and make in its own way, and two
of them may share a name, a label and an arity. So this is told of node
types of any kind, which need only have names (`NodeTypes`); those that
count and make as the built-in ones do are a case of it
(`NodeTypes.build_inherited`).

That the registry extended from is not touched is told of tables in
memory, since that is where it could be: extending copies a table, puts
the added types into the copy, in place and one after the other, and
copies that once more. Every table made before stays what it was
(`NodeTypes.at?_extendAt`), however much is extended later
(`NodeTypes.at?_run`).
-/

namespace FeatureGates

/-! ## The keys of a literal -/

namespace Value

mutual

/-- The text keys of the records in a value, at any depth. -/
def keys : Value → List String
  | .list items => keysOfAll items
  | .tuple items => keysOfAll items
  | .record entries => keysOfEntries entries
  | _ => []

def keysOfAll : List Value → List String
  | [] => []
  | item :: rest => keys item ++ keysOfAll rest

def keysOfEntries : List (Value × Value) → List String
  | [] => []
  | (.text key, value) :: rest => key :: keys value ++ keysOfEntries rest
  | (_, value) :: rest => keys value ++ keysOfEntries rest

end

theorem mem_keysOfAll {items : List Value} {item : Value} (mem : item ∈ items) {name : String}
    (h : name ∈ item.keys) : name ∈ keysOfAll items := by
  induction items with
  | nil => cases mem
  | cons first rest ih =>
    rw [keysOfAll, List.mem_append]
    rcases List.mem_cons.1 mem with rfl | mem
    · exact .inl h
    · exact .inr (ih mem)

/-- The key of a record of one entry is among its keys. -/
theorem mem_keys_entry (name : String) (body : Value) :
    name ∈ (record [(.text name, body)]).keys := by
  rw [keys, keysOfEntries, List.cons_append]
  exact List.mem_cons_self

/-- The keys of an argument are among those of the record of one entry around it. -/
theorem mem_keys_argument {key body arg : Value} (mem : arg ∈ Node.argumentsOf body)
    {name : String} (h : name ∈ arg.keys) : name ∈ (record [(key, body)]).keys := by
  have inBody : name ∈ body.keys := by
    rcases Node.argumentsOf_cases body with ⟨items, rfl⟩ | ⟨items, rfl⟩ | ⟨lone, -, -⟩
    · rw [keys]
      exact mem_keysOfAll mem h
    · rw [keys]
      exact mem_keysOfAll mem h
    · rw [lone] at mem
      rw [← List.mem_singleton.1 mem]
      exact h
  rw [keys]
  unfold keysOfEntries
  split
  · rename_i same
    cases same
  · rename_i same
    cases same
    exact List.mem_append_left _ (List.mem_cons_of_mem _ inBody)
  · rename_i same
    cases same
    exact List.mem_append_left _ inBody

end Value

/-! ## Node types -/

/-- A registry as a table. -/
def Registry.table (registry : Registry) : Table NodeType := ⟨registry.entries⟩

/-- Node types, whatever they are: what each is called, whether it is the leaf, how many
arguments it lets pass and what it makes of them. A tree that is there already, and so a leaf,
stands for itself. -/
structure NodeTypes (κ τ : Type) where
  name : κ → String
  isLeaf : κ → Bool
  checkCount : κ → Nat → Except Failure Unit
  make : κ → List τ → Except Failure τ
  ready : Node → τ

namespace NodeTypes

variable {κ τ : Type} (types : NodeTypes κ τ)

/-- The node types that count and make as the built-in ones do. -/
def inherited : NodeTypes NodeType Node where
  name type := type.signature.name
  isLeaf type := type = .constant
  checkCount type := Node.checkArity type.signature
  make
    | .constant, _ => .error .wrongCall
    | .operator operator, args => .ok (.call operator args)
  ready := id

/-- The node type that a key stands for. -/
def resolve (registry : Table κ) : Value → Except Failure κ
  | .text name =>
    match registry.find? name with
    | some type => .ok type
    | none => .error (.unknownOperator name)
  | key => do throw (.unknownOperator (← key.shown))

/-- Reads a tree off object notation. -/
def build (registry : Table κ) : Value → Except Failure τ
  | .scalar s => .ok (types.ready (.constant s))
  | .node tree => .ok (types.ready tree)
  | .record [(key, body)] => do
    let type ← resolve registry key
    types.checkCount type (Node.argumentsOf body).length
    if types.isLeaf type then return types.ready (← Node.buildLeaf (Node.argumentsOf body))
    else types.make type (← (Node.argumentsOf body).attach.mapM fun arg => build registry arg.1)
  | .record entries => do throw (← Node.wrongKeyCount entries)
  | value => do throw (.notAnExpression (← value.written))
termination_by value => sizeOf value
decreasing_by exact Node.sizeOf_lt_of_mem_argumentsOf arg.2

/-- The registry with node types added under their names. -/
def extend (registry : Table κ) (added : List κ) : Table κ :=
  added.foldl (fun registry type => registry.put (types.name type) type) registry

/-! ### The inherited ones -/

theorem build_entry (registry : Table κ) (key body : Value) :
    types.build registry (.record [(key, body)]) = (do
      let type ← resolve registry key
      types.checkCount type (Node.argumentsOf body).length
      if types.isLeaf type then return types.ready (← Node.buildLeaf (Node.argumentsOf body))
      else types.make type (← (Node.argumentsOf body).mapM (types.build registry))) := by
  rw [build]
  simp only [List.mapM_subtype, List.unattach_attach]

theorem resolve_table (registry : Registry) (key : Value) :
    resolve registry.table key = Node.resolve registry key := by
  cases key with
  | scalar s =>
    cases s with
    | text name =>
      have same : registry.table.find? name = registry.find? name := rfl
      cases found : registry.find? name <;> simp only [resolve, Node.resolve, same, found]
    | _ => simp only [resolve, Node.resolve]
  | _ => simp only [resolve, Node.resolve]

theorem buildAll_eq_mapM (registry : Registry) (args : List Value) :
    Node.buildAll registry args = args.mapM (Node.build registry) := by
  induction args with
  | nil =>
    rw [Node.buildAll]
    rfl
  | cons arg rest ih => rw [Node.buildAll, List.mapM_cons, ih]

/-- A run over a list depends on what it does with the members only. -/
theorem mapM_congr {α β ε : Type} {args : List α} {f g : α → Except ε β}
    (h : ∀ arg ∈ args, f arg = g arg) : args.mapM f = args.mapM g := by
  induction args with
  | nil => rfl
  | cons arg rest ih =>
    obtain ⟨first, others⟩ := List.forall_mem_cons.1 h
    rw [List.mapM_cons, List.mapM_cons, first, ih others]

/-- With the inherited node types, trees are built as `Node.build` builds them. -/
theorem build_inherited (registry : Registry) (value : Value) :
    inherited.build registry.table value = Node.build registry value := by
  cases value with
  | record entries =>
    match entries with
    | [(key, body)] =>
      have all : (Node.argumentsOf body).mapM (inherited.build registry.table) =
          Node.buildAll registry (Node.argumentsOf body) :=
        (mapM_congr fun arg mem => build_inherited registry arg).trans
          (buildAll_eq_mapM registry _).symm
      rw [build_entry, Node.build_entry, resolve_table, all]
      unfold Node.parseEntry
      simp only [bind_assoc, pure_bind]
      refine bind_congr fun type => bind_congr fun _ => ?_
      cases type with
      | constant => exact bind_pure (Node.buildLeaf (Node.argumentsOf body))
      | operator operator => rfl
    | [] => simp only [build, Node.build]
    | _ :: _ :: _ => simp only [build, Node.build]
  | scalar s => simp only [build, Node.build]; rfl
  | node tree => simp only [build, Node.build]; rfl
  | _ => simp only [build, Node.build]
termination_by sizeOf value
decreasing_by exact Node.sizeOf_lt_of_mem_argumentsOf mem

/-- Extending a registry of the inherited node types is `Registry.extend`. -/
theorem extend_inherited (registry : Registry) (added : List NodeType) :
    inherited.extend registry.table added = (registry.extend added).table := by
  induction added generalizing registry with
  | nil => rfl
  | cons type rest ih =>
    have put : registry.table.put (inherited.name type) type =
        (registry.insert type).table := by
      refine congrArg Table.mk ?_
      show Table.putRows type.signature.name type registry.entries =
        Registry.putEntry type.signature.name type registry.entries
      induction registry.entries with
      | nil => rfl
      | cons entry entries same =>
        rw [Table.putRows, Registry.putEntry, same]
        exact ite_congr (propext eq_comm) (fun _ => rfl) (fun _ => rfl)
    show inherited.extend (registry.table.put (inherited.name type) type) rest = _
    rw [put]
    exact ih (registry.insert type)

/-! ### What the added names change -/

/-- A name stands for the last of the added node types that have it, else for what it did. -/
theorem find?_extend (registry : Table κ) (added : List κ) (name : String) :
    (types.extend registry added).find? name =
      (added.reverse.find? fun type => types.name type == name).or (registry.find? name) := by
  induction added generalizing registry with
  | nil => rfl
  | cons type rest ih =>
    show (types.extend (registry.put (types.name type) type) rest).find? name = _
    rw [ih, Table.find?_put, List.reverse_cons, List.find?_append, Option.or_assoc]
    by_cases own : name = types.name type
    · rw [if_pos own, List.find?_cons_of_pos (by simpa using own.symm), Option.some_or]
    · rw [if_neg own, List.find?_cons_of_neg (by simpa using fun h => own h.symm), List.find?_nil,
        Option.none_or]

theorem find?_extend_of_ne {registry : Table κ} {added : List κ} {name : String}
    (h : ∀ type ∈ added, types.name type ≠ name) :
    (types.extend registry added).find? name = registry.find? name := by
  have none : (added.reverse.find? fun type => types.name type == name) = none :=
    List.find?_eq_none.2 fun type mem same =>
      h type (List.mem_reverse.1 mem) (beq_iff_eq.1 same)
  rw [find?_extend, none, Option.none_or]

theorem resolve_congr {registry other : Table κ} {key : Value}
    (same : ∀ name, key = .text name → registry.find? name = other.find? name) :
    resolve registry key = resolve other key := by
  unfold resolve
  split
  · rw [same _ rfl]
  · rfl

/-- What is built of a value depends on what its keys stand for, and on nothing else. -/
theorem build_congr {registry other : Table κ} (value : Value) :
    (∀ name ∈ value.keys, registry.find? name = other.find? name) →
      types.build registry value = types.build other value := by
  cases value with
  | record entries =>
    match entries with
    | [(key, body)] =>
      intro same
      have all : (Node.argumentsOf body).mapM (types.build registry) =
          (Node.argumentsOf body).mapM (types.build other) :=
        mapM_congr fun arg mem =>
          build_congr arg fun name inside => same name (Value.mem_keys_argument mem inside)
      rw [build_entry, build_entry, all, resolve_congr]
      rintro name rfl
      exact same name (Value.mem_keys_entry name body)
    | [] => simp only [build, implies_true]
    | _ :: _ :: _ => simp only [build, implies_true]
  | _ => simp only [build, implies_true]
termination_by sizeOf value
decreasing_by exact Node.sizeOf_lt_of_mem_argumentsOf mem

/-- A literal none of whose keys is an added name is built, or refused, as before. -/
theorem build_extend {registry : Table κ} {added : List κ} {literal : Value}
    (apart : ∀ name ∈ literal.keys, ∀ type ∈ added, types.name type ≠ name) :
    types.build (types.extend registry added) literal = types.build registry literal :=
  types.build_congr literal fun name mem => types.find?_extend_of_ne (apart name mem)

end NodeTypes

/-! ## Registries in memory -/

/-- Tables of node types, each at the place that it was made at. -/
structure Heap (κ : Type) where
  tables : List (Table κ)

namespace Heap

variable {κ : Type}

def at? (heap : Heap κ) (place : Nat) : Option (Table κ) := heap.tables[place]?

/-- Makes a copy of the table at a place, and says where. -/
def copy (heap : Heap κ) (place : Nat) : Heap κ × Nat :=
  (⟨heap.tables ++ [(heap.at? place).getD .empty]⟩, heap.tables.length)

/-- Puts a node type into the table at a place. -/
def put (heap : Heap κ) (place : Nat) (name : String) (type : κ) : Heap κ :=
  ⟨heap.tables.modify place fun table => table.put name type⟩

variable {heap : Heap κ} {place other : Nat} {table : Table κ}

theorem lt_of_at? (held : heap.at? place = some table) : place < heap.tables.length :=
  (List.getElem?_eq_some_iff.1 held).1

theorem at?_copy (held : heap.at? place = some table) :
    (heap.copy other).1.at? place = some table := by
  show (heap.tables ++ _)[place]? = _
  rw [List.getElem?_append_left (lt_of_at? held)]
  exact held

theorem at?_copy_new (held : heap.at? place = some table) :
    (heap.copy place).1.at? (heap.copy place).2 = some table := by
  show (heap.tables ++ [(heap.at? place).getD .empty])[heap.tables.length]? = _
  rw [held, List.getElem?_concat_length]
  rfl

theorem at?_put_same (held : heap.at? place = some table) (name : String) (type : κ) :
    (heap.put place name type).at? place = some (table.put name type) := by
  show (heap.tables.modify place _)[place]? = _
  rw [List.getElem?_modify_eq]
  show (heap.at? place).map _ = _
  rw [held]
  rfl

theorem at?_put_of_ne (h : place ≠ other) (name : String) (type : κ) :
    (heap.put place name type).at? other = heap.at? other := by
  show (heap.tables.modify place _)[other]? = _
  rw [List.getElem?_modify_ne _ _ h]
  rfl

end Heap

namespace NodeTypes

variable {κ τ : Type} (types : NodeTypes κ τ)

/-- Puts node types into the table at a place, one after the other. -/
def putAll (heap : Heap κ) (place : Nat) (added : List κ) : Heap κ :=
  added.foldl (fun heap type => heap.put place (types.name type) type) heap

/-- Makes a registry of the one at a place by adding node types, and says where: they are put
into a copy of its table, of which the new registry has a copy of its own. -/
def extendAt (heap : Heap κ) (place : Nat) (added : List κ) : Heap κ × Nat :=
  let (heap, merged) := heap.copy place
  (types.putAll heap merged added).copy merged

/-- Extends registries, each at its place, one after the other. -/
def run (heap : Heap κ) (calls : List (Nat × List κ)) : Heap κ :=
  calls.foldl (fun heap call => (types.extendAt heap call.1 call.2).1) heap

variable {heap : Heap κ} {place other : Nat} {table : Table κ}

theorem at?_putAll_same (held : heap.at? place = some table) (added : List κ) :
    (types.putAll heap place added).at? place = some (types.extend table added) := by
  induction added generalizing heap table with
  | nil => exact held
  | cons type rest ih => exact ih (Heap.at?_put_same held (types.name type) type)

theorem at?_putAll_of_ne (h : place ≠ other) (added : List κ) :
    (types.putAll heap place added).at? other = heap.at? other := by
  induction added generalizing heap with
  | nil => rfl
  | cons type rest ih => exact ih.trans (Heap.at?_put_of_ne h (types.name type) type)

/-- Extending leaves every table there was as it was. -/
theorem at?_extendAt (held : heap.at? other = some table) (place : Nat) (added : List κ) :
    (types.extendAt heap place added).1.at? other = some table := by
  have fresh : (heap.copy place).2 ≠ other := Nat.ne_of_gt (Heap.lt_of_at? held)
  exact Heap.at?_copy ((types.at?_putAll_of_ne fresh added).trans (Heap.at?_copy held))

/-- The new registry is the old one with the node types added. -/
theorem at?_extendAt_new (held : heap.at? place = some table) (added : List κ) :
    (types.extendAt heap place added).1.at? (types.extendAt heap place added).2 =
      some (types.extend table added) :=
  Heap.at?_copy_new (types.at?_putAll_same (Heap.at?_copy_new held) added)

/-- However many registries are extended, a table stays what it was. -/
theorem at?_run (held : heap.at? place = some table) (calls : List (Nat × List κ)) :
    (types.run heap calls).at? place = some table := by
  induction calls generalizing heap with
  | nil => exact held
  | cons call rest ih => exact ih (types.at?_extendAt held call.1 call.2)

/-- Extending is conservative. In the new registry a name stands for the last of the added node
types that have it, else for what it did, and a literal none of whose keys is an added name is
built, or refused, as before. Both registries stay what they are, whatever is extended later. What
the library itself extends and builds is the case of the inherited node types. -/
theorem extend_conservative {registry : Table κ} (held : heap.at? place = some registry)
    (added : List κ) (later : List (Nat × List κ)) {literal : Value}
    (apart : ∀ name ∈ literal.keys, ∀ type ∈ added, types.name type ≠ name) :
    (∀ name, (types.extend registry added).find? name =
      (added.reverse.find? fun type => types.name type == name).or (registry.find? name)) ∧
    types.build (types.extend registry added) literal = types.build registry literal ∧
    (∃ heap' new, types.extendAt heap place added = (heap', new) ∧
      (types.run heap' later).at? place = some registry ∧
      (types.run heap' later).at? new = some (types.extend registry added)) ∧
    (∀ (registry : Registry) (added : List NodeType),
      inherited.extend registry.table added = (registry.extend added).table) ∧
    ∀ (registry : Registry) (value : Value),
      inherited.build registry.table value = Node.build registry value :=
  ⟨types.find?_extend registry added, types.build_extend apart,
    ⟨_, _, rfl, types.at?_run (types.at?_extendAt held place added) later,
      types.at?_run (types.at?_extendAt_new held added) later⟩,
    extend_inherited, build_inherited⟩

/-- A node type of the name that `paired` has too. -/
def single : NodeType := .operator (.custom ⟨"Pairs", "Single", ⟨1, some 1⟩, false⟩)

/-- A node type that counts in its own way where it is one of `pairing`. -/
def paired : NodeType := .operator (.custom ⟨"Pairs", "Paired", ⟨0, none⟩, false⟩)

/-- The inherited node types, but that `paired` takes pairs only. -/
def pairing : NodeTypes NodeType Node :=
  { inherited with
    checkCount := fun type count =>
      if type = paired ∧ count % 2 = 1 then .error .wrongCall else inherited.checkCount type count }

theorem extend_conservative_pairing :
    (pairing.extend Registry.standard.table [single, paired]).find? "Pairs" = some paired ∧
      pairing.build (pairing.extend Registry.standard.table [single, paired])
          (.record [(.text "Any", .list [.record [(.text "Boolean", .text "plan")], .int 3])]) =
        pairing.build Registry.standard.table
          (.record [(.text "Any", .list [.record [(.text "Boolean", .text "plan")], .int 3])]) := by
  have held : (Heap.mk [Registry.standard.table]).at? 0 = some Registry.standard.table := rfl
  have told := pairing.extend_conservative held [single, paired] [(0, [single]), (2, [])]
    (show ∀ name ∈ (Value.record [(.text "Any", .list
        [.record [(.text "Boolean", .text "plan")], .int 3])]).keys,
        ∀ type ∈ [single, paired], pairing.name type ≠ name by decide +kernel)
  refine ⟨?_, told.2.1⟩
  rw [told.1]
  decide +kernel

end NodeTypes

end FeatureGates
