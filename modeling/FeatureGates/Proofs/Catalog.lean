import FeatureGates.Proofs.Reference
import FeatureGates.Proofs.Refinement

/-!
# The catalog of features

What a store is for, without cells and texts: which features exist, and for
each the typed values of its gates. `Catalog.edit` says what each kind of
write makes of it, and `Action.edit?` which of them an action comes to if
its arguments are accepted.

Accepted are percentages that are integers or have a point in their text,
trees without integers too long to write, and groups whose name can be
written.
-/

namespace FeatureGates

/-! Powers of natural numbers are the ones of core. -/

attribute [local instance (2000)] instPowNat

/-! ## Gates of one kind -/

/-- The gates that hold sets of names. -/
inductive Crowd where
  | actors
  | groups
deriving DecidableEq

def Crowd.gate : Crowd → Gate
  | .actors => .actor
  | .groups => .group

/-- The gates that hold percentages. -/
inductive Share where
  | actors
  | time
deriving DecidableEq

def Share.gate : Share → Gate
  | .actors => .percentageOfActors
  | .time => .percentageOfTime

namespace NameSet

/-- The names but one. -/
def erase (names : NameSet) (name : String) : NameSet :=
  ⟨names.names.filter (· ≠ name), names.ascending.filter _⟩

theorem mem_erase {names : NameSet} {name x : String} :
    x ∈ names.erase name ↔ x ∈ names ∧ x ≠ name := by
  show x ∈ names.names.filter _ ↔ _
  rw [List.mem_filter, decide_eq_true_eq]
  rfl

end NameSet

namespace GateValues

variable (values : GateValues)

def names : Crowd → NameSet
  | .actors => values.actors
  | .groups => values.groups

def withNames (names : NameSet) : Crowd → GateValues
  | .actors => { values with actors := names }
  | .groups => { values with groups := names }

def withPercentage (n : Number) : Share → GateValues
  | .actors => { values with percentageOfActors := n }
  | .time => { values with percentageOfTime := n }

end GateValues

/-! ## Edits -/

/-- What is done to a feature. -/
inductive Edit where
  | add
  | remove
  | clear
  /-- Opens the feature for everyone. -/
  | everyone
  /-- Closes it for everyone; nothing is left. -/
  | nobody
  | enter (crowd : Crowd) (name : String)
  | leave (crowd : Crowd) (name : String)
  | percentage (share : Share) (n : Number)
  | expression (stored : Option Entries)

/-- The edited values of a feature, if it goes on to exist. -/
def GateValues.edit (values : GateValues) : Edit → GateValues
  | .add => values
  | .remove => .closed
  | .clear => .closed
  | .everyone => { values with boolean := true }
  | .nobody => .closed
  | .enter crowd name => values.withNames ((values.names crowd).insert name) crowd
  | .leave crowd name => values.withNames ((values.names crowd).erase name) crowd
  | .percentage share n => values.withPercentage n share
  | .expression stored => { values with expression := stored }

/-- The features that exist and the values of their gates. -/
abbrev Catalog := Table GateValues

namespace Catalog

/-- The values of a feature; all gates of one that does not exist are closed. -/
def values (catalog : Catalog) (feature : String) : GateValues :=
  (catalog.find? feature).getD .closed

/-- Only a removal ends a feature, and only a clearing does not begin one. -/
def edit (catalog : Catalog) (feature : String) (edit : Edit) : Catalog :=
  match edit with
  | .remove => catalog.erase feature
  | .clear => if catalog.contains feature then catalog.put feature .closed else catalog
  | edit => catalog.put feature ((catalog.values feature).edit edit)

/-- The catalog after some edits of features, one after another. -/
def ofEdits (edits : List (String × Edit)) : Catalog :=
  edits.foldl (fun catalog request => catalog.edit request.1 request.2) .empty

end Catalog

/-! ## Wrappers and their gates -/

theorem Value.refuse_ne_ok {role : Role} {thing : Value} {wrapped : Wrapped} :
    thing.refuse role ≠ .ok wrapped := by
  intro h
  obtain ⟨text, -, thrown⟩ := exists_of_bind_eq_ok h
  cases thrown

/-- The gate that a wrapper is for. -/
def Wrapped.gate : Wrapped → Gate
  | .actor _ _ => .actor
  | .group _ => .group
  | .boolean _ => .boolean
  | .percentageOfActors _ => .percentageOfActors
  | .percentageOfTime _ => .percentageOfTime
  | .expression _ => .expression

namespace Wrapped

variable {thing : Value} {wrapped : Wrapped}

theorem gate_ofPercentage {wrap : Percentage → Wrapped} {gate : Gate}
    (hw : ∀ p, (wrap p).gate = gate) (h : ofPercentage wrap thing = .ok wrapped) :
    wrapped.gate = gate := by
  unfold ofPercentage at h
  split at h
  · obtain ⟨p, -, rfl⟩ := exists_of_map_eq_ok h
    exact hw p
  · exact absurd h Value.refuse_ne_ok

theorem gate_wrapActor (h : wrapActor thing = .ok wrapped) : wrapped.gate = .actor := by
  unfold wrapActor at h
  split at h
  · cases h
    rfl
  · split at h
    · unfold ofActor at h
      split at h
      · exact absurd h Value.refuse_ne_ok
      · obtain ⟨id, -, made⟩ := exists_of_bind_eq_ok h
        cases made
        rfl
      · exact absurd h Value.refuse_ne_ok
    · exact absurd h Value.refuse_ne_ok

theorem gate_wrapExpression {registry : Registry}
    (h : wrapExpression registry thing = .ok wrapped) :
    wrapped.gate = .expression := by
  unfold wrapExpression at h
  split at h
  · cases h
    rfl
  · cases h
    rfl
  · obtain ⟨tree, -, rfl⟩ := exists_of_map_eq_ok h
    rfl
  · exact absurd h Value.refuse_ne_ok

end Wrapped

/-- A gate wraps things in wrappers for itself. -/
theorem Gate.gate_wrap {gate : Gate} {registry : Registry} {thing : Value} {wrapped : Wrapped}
    (h : gate.wrap registry thing = .ok wrapped) : wrapped.gate = gate := by
  cases gate with
  | boolean =>
    have h : Wrapped.wrapBoolean thing = .ok wrapped := h
    unfold Wrapped.wrapBoolean at h
    split at h
    · cases h
      rfl
    · cases h
      rfl
    · exact absurd h Value.refuse_ne_ok
  | expression => exact Wrapped.gate_wrapExpression h
  | actor => exact Wrapped.gate_wrapActor h
  | group =>
    have h : Wrapped.wrapGroup thing = .ok wrapped := h
    unfold Wrapped.wrapGroup at h
    split at h
    · cases h
      rfl
    · cases h
      rfl
    · exact absurd h Value.refuse_ne_ok
  | percentageOfActors =>
    have h : Wrapped.wrapPercentageOfActors thing = .ok wrapped := h
    unfold Wrapped.wrapPercentageOfActors at h
    split at h
    · cases h
      rfl
    · exact Wrapped.gate_ofPercentage (fun _ => rfl) h
  | percentageOfTime =>
    have h : Wrapped.wrapPercentageOfTime thing = .ok wrapped := h
    unfold Wrapped.wrapPercentageOfTime at h
    split at h
    · cases h
      rfl
    · exact Wrapped.gate_ofPercentage (fun _ => rfl) h

/-! ## What actions come to -/

/-- The number is an integer, or its text has a point. -/
def Number.hasPoint : Number → Bool
  | .int _ => true
  | .float x => x.written.toList.contains '.'

/-- Integers are short enough to be written. -/
def Scalar.isShort : Scalar → Bool
  | .number (.int n) => n.natAbs < 10 ^ Text.digitLimit
  | _ => true

namespace Node

mutual

/-- All leaves that are integers are short enough to be written. -/
def isShort : Node → Bool
  | .constant value => value.isShort
  | .call _ args => areShort args

def areShort : List Node → Bool
  | [] => true
  | arg :: rest => isShort arg && areShort rest

end

/-- The entries of the record that a tree is stored as. -/
def storedEntries (tree : Node) : Entries :=
  match tree.toStored with
  | .record entries => entries
  | _ => []

end Node

/-- What enabling or disabling a wrapped thing comes to, if a store accepts it. -/
def Wrapped.edit? (c : Change) : Wrapped → Option Edit
  | .boolean _ => some (match c with | .enable => .everyone | .disable => .nobody)
  | .actor _ id =>
    some (match c with | .enable => .enter .actors id | .disable => .leave .actors id)
  | .group name =>
    match name.shown, c with
    | .ok text, .enable => some (.enter .groups text)
    | .ok text, .disable => some (.leave .groups text)
    | .error _, _ => none
  | .percentageOfActors p => if p.value.hasPoint then some (.percentage .actors p.value) else none
  | .percentageOfTime p => if p.value.hasPoint then some (.percentage .time p.value) else none
  | .expression tree =>
    match c with
    | .enable => if tree.isShort then some (.expression (some tree.storedEntries)) else none
    | .disable => some (.expression none)

def Demand.edit? : Demand → Option Edit
  | .add => some .add
  | .remove => some .remove
  | .clear => some .clear
  | .change c _ (.wrapped thing) => thing.edit? c
  | .change .disable .expression .null => some (.expression none)
  | .change _ _ _ => none

/-- What an action comes to, if it is a write with arguments that are accepted. -/
def Action.edit? (registry : Registry) (action : Action) : Option Edit :=
  match action.demand? registry with
  | some (.ok demand) => demand.edit?
  | _ => none

/-! ## Routing -/

/-- A demand to write a gate comes in a wrapper for that gate; only an
expression may be disabled without any. -/
def Demand.IsRouted : Demand → Prop
  | .change c gate thing =>
    (∃ wrapped : Wrapped, thing = .wrapped wrapped ∧ wrapped.gate = gate) ∨
      c = .disable ∧ gate = .expression ∧ thing = .null
  | _ => True

theorem Change.isRouted_demand {c : Change} {registry : Registry} {thing : Value} {demand : Demand}
    (h : c.demand registry thing = .ok demand) : demand.IsRouted := by
  obtain ⟨gate, -, h⟩ := exists_of_bind_eq_ok h
  obtain ⟨wrapped, made, h⟩ := exists_of_bind_eq_ok h
  cases h
  exact .inl ⟨wrapped, rfl, Gate.gate_wrap made⟩

theorem Change.isRouted_demandWrapped {c : Change} {registry : Registry}
    {wrapped : Except Failure Wrapped} {demand : Demand}
    (h : c.demandWrapped registry wrapped = .ok demand) : demand.IsRouted := by
  obtain ⟨thing, -, h⟩ := exists_of_bind_eq_ok h
  exact isRouted_demand h

/-- Whatever an action demands is routed. -/
theorem Action.isRouted_demand {registry : Registry} {action : Action} {demand : Demand}
    (h : action.demand? registry = some (.ok demand)) : demand.IsRouted := by
  cases action with
  | add => cases h; exact trivial
  | remove => cases h; exact trivial
  | clear => cases h; exact trivial
  | change c thing => exact Change.isRouted_demand (Option.some.inj h)
  | disableExpression => cases h; exact .inr ⟨rfl, rfl, rfl⟩
  | changeActor c actor => exact Change.isRouted_demandWrapped (Option.some.inj h)
  | changeGroup c group => exact Change.isRouted_demandWrapped (Option.some.inj h)
  | enablePercentageOfActors p => exact Change.isRouted_demandWrapped (Option.some.inj h)
  | enablePercentageOfTime p => exact Change.isRouted_demandWrapped (Option.some.inj h)
  | enableExpression e => exact Change.isRouted_demandWrapped (Option.some.inj h)
  | disablePercentageOfActors => exact Change.isRouted_demandWrapped (Option.some.inj h)
  | disablePercentageOfTime => exact Change.isRouted_demandWrapped (Option.some.inj h)
  | _ => cases h

end FeatureGates
