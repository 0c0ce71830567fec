import FeatureGates.FlagSet.Action

/-!
# The reference machine

What flags are without adapters: one set of records, checks that go on in
surroundings, registered groups, and rules about what is refused. Every
action is first turned into what it demands of the records
(`Action.demand?`), which checks its arguments; what is no demand is a
question, answered from the typed values of one feature.

The rules come before the records: a demand is refused as a whole
(`Rules.guardWrite`) or filed as a whole, and a question about a feature
that does not exist may be refused.
-/

namespace FeatureGates

variable {α : Type}

/-- What is refused. -/
structure Rules where
  /-- No writes at all. -/
  readOnly : Bool
  /-- No further actor once a feature has this many. -/
  actorLimit : Option Int
  /-- No reads of features that do not exist. -/
  refusesMissing : Bool

/-- The rules that refuse nothing. -/
def Rules.lenient : Rules := ⟨false, none, false⟩

/-- What a reference machine goes on in. -/
structure ReferenceState where
  records : Records
  surroundings : Surroundings
  groups : Groups

abbrev Machine := EStateM Failure ReferenceState

namespace Machine

def ofExcept (result : Except Failure α) : Machine α :=
  match result with
  | .ok value => pure value
  | .error failure => throw failure

def ofCheck (check : Check α) : Machine α := fun state =>
  match check.run state.surroundings with
  | .ok value surroundings => .ok value { state with surroundings }
  | .error failure surroundings => .error failure { state with surroundings }

def file (filing : Filing α) : Machine α := fun state =>
  match filing.run state.records with
  | .ok value records => .ok value { state with records }
  | .error failure records => .error failure { state with records }

end Machine

/-- A write as it is filed; disabling a truth value ends in a clearing. -/
def Filing.write (feature : String) : Write → Filing Bool
  | .add => add feature
  | .remove => remove feature
  | .clear => clear feature
  | .enable slot thing => enable feature slot thing
  | .disable slot thing => do
    if ← disable feature slot thing then clear feature else return true

/-! ## Rules -/

namespace Rules

/-- The first of some features that does not exist. -/
def missing? (records : Records) (features : List String) : Option String :=
  features.find? fun feature => !records.contains feature

/-- Refuses features that do not exist, the first of them. -/
def requireAll (features : List String) : Machine Unit := do
  match missing? (← get).records features with
  | some feature => throw (.featureNotFound feature)
  | none => return

/-- The answer to a read, unless it is refused. -/
def read (rules : Rules) (r : Read α) : Machine α := do
  if rules.refusesMissing then requireAll r.subjects
  return (← get).records.read r

/-- The feature has as many actors as it may have. -/
def isFull (limit : Int) (feature : String) : Machine Bool := do
  let raw := (← get).records.readFeature feature
  let names ← Machine.ofExcept (Raw.toNames (Entries.get raw Gate.actor.key))
  return limit ≤ names.size

/-- Refuses another actor to a feature that is full. -/
def guardActors (limit : Int) (feature : String) : Machine Unit := do
  if ← isFull limit feature then throw (.actorLimitExceeded feature limit)

/-- Refuses a write that is against the rules. -/
def guardWrite (rules : Rules) (feature : String) (write : Write) : Machine Unit := do
  if rules.readOnly then throw (.writeAttempted Failure.readOnlyReason)
  match rules.actorLimit with
  | some limit => if Adapter.addsActor write then guardActors limit feature
  | none => return

/-- Makes a write, unless it is refused. -/
def write (rules : Rules) (feature : String) (write : Write) : Machine Bool := do
  rules.guardWrite feature write
  Machine.file (Filing.write feature write)

end Rules

/-! ## Demands -/

/-- What an action wants done to the records of a feature. -/
inductive Demand where
  | add
  | remove
  | clear
  | change (change : Change) (gate : Gate) (thing : Value)

/-- The writes that a demand takes, in order. -/
def Demand.writes : Demand → List Write
  | .add => [.add]
  | .remove => [.remove]
  | .clear => [.clear]
  | .change c gate thing => [.add, c.toWrite gate thing]

/-- Adds the feature and writes one of its gates. -/
def Filing.change (feature : String) (change : Change) (gate : Gate) (thing : Value) :
    Filing Bool := do
  let _ ← add feature
  write feature (change.toWrite gate thing)

/-- What meeting a demand files. -/
def Demand.filing (feature : String) : Demand → Filing Bool
  | .add => Filing.write feature .add
  | .remove => Filing.write feature .remove
  | .clear => Filing.write feature .clear
  | .change c gate thing => Filing.change feature c gate thing

/-- Meets a demand, unless it is refused. -/
def Rules.carryOut (rules : Rules) (feature : String) : Demand → Machine Bool
  | .add => rules.write feature .add
  | .remove => rules.write feature .remove
  | .clear => rules.write feature .clear
  | .change c gate thing => do
    rules.guardWrite feature (c.toWrite gate thing)
    Machine.file (Filing.change feature c gate thing)

/-- What the enabling or disabling of a thing demands; no thing is everyone. -/
def Change.demand (change : Change) (registry : Registry) (thing : Value) :
    Except Failure Demand := do
  let thing := if thing.isNull then change.everyone else thing
  let gate ← Gate.route thing
  let wrapped ← gate.wrap registry thing
  return .change change gate (.wrapped wrapped)

/-- What the enabling or disabling of a wrapped thing demands. -/
def Change.demandWrapped (change : Change) (registry : Registry)
    (wrapped : Except Failure Wrapped) : Except Failure Demand := do
  change.demand registry (.wrapped (← wrapped))

/-- What an action demands, if its arguments are accepted; questions demand nothing. -/
def Action.demand? (registry : Registry) : Action → Option (Except Failure Demand)
  | .add => some (.ok .add)
  | .remove => some (.ok .remove)
  | .clear => some (.ok .clear)
  | .change c thing => some (c.demand registry thing)
  | .changeActor c actor => some (c.demandWrapped registry (Wrapped.wrapActor actor))
  | .changeGroup c group => some (c.demandWrapped registry (Wrapped.wrapGroup group))
  | .enablePercentageOfActors p =>
    some (Change.enable.demandWrapped registry (Wrapped.wrapPercentageOfActors p))
  | .enablePercentageOfTime p =>
    some (Change.enable.demandWrapped registry (Wrapped.wrapPercentageOfTime p))
  | .enableExpression e =>
    some (Change.enable.demandWrapped registry (Wrapped.wrapExpression registry e))
  | .disablePercentageOfActors =>
    some (Change.disable.demandWrapped registry (.ok (.percentageOfActors .zero)))
  | .disablePercentageOfTime =>
    some (Change.disable.demandWrapped registry (.ok (.percentageOfTime .zero)))
  | .disableExpression => some (.ok (.change .disable .expression .null))
  | _ => none

/-! ## Questions -/

/-- Rules, and what questions need to know beside the records. -/
structure Reference where
  rules : Rules
  registry : Registry
  meaning : Meaning
  adapterName : String

namespace Reference

variable (reference : Reference)

/-- The typed values of a feature. -/
def values (feature : String) : Machine GateValues := do
  Machine.ofExcept (GateValues.ofEntries (← reference.rules.read (.get feature)))

def exist (feature : String) : Machine Bool := do
  return (← reference.rules.read .features).contains feature

def state (feature : String) : Machine FeatureState := do
  return (← reference.values feature).state

/-- The actor that a thing is; null is none. -/
def subjectOf (thing : Value) : Machine (Option Subject) := do
  if thing.isNull then return none
  return some (← Machine.ofExcept (Subject.ofThing thing))

def isEnabled (feature : String) (thing : Value) : Machine Bool := do
  let values ← reference.values feature
  let subject ← subjectOf thing
  let environment : Environment := ⟨reference.registry, reference.meaning, (← get).groups⟩
  return (← Machine.ofCheck (Gate.firstOpen environment ⟨feature, values, subject⟩)).isSome

/-- The gates that stored values open for someone, or that they do not. -/
def gatesOf (feature : String) (enabled : Bool) : Machine (List Gate) := do
  let values ← reference.values feature
  return Gate.order.filter fun gate => values.opens gate == enabled

def groupsThatAre (enabled : Bool) (feature : String) : Machine (List Group) := do
  let names := (← reference.values feature).groups
  let groups := (← get).groups
  return (groups.rows.filter fun row => names.contains row.1 == enabled).map (·.2)

def overview (feature : String) : Machine FlagSet.Overview := do
  let values ← reference.values feature
  return ⟨feature, values.state, Gate.order.filter values.opens, reference.adapterName⟩

/-- The answer to a question. -/
def ask (feature : String) : Action → Machine Answer
  | .exist => .truth <$> reference.exist feature
  | .isEnabled thing => .truth <$> reference.isEnabled feature thing
  | .state => .state <$> reference.state feature
  | .hasState s => do return .truth ((← reference.state feature) = s)
  | .gateValues => .values <$> reference.values feature
  | .gateValue gate => do return .value ((← reference.values feature).get gate)
  | .gatesThatAre enabled => .gates <$> reference.gatesOf feature enabled
  | .gateNamesThatAre enabled => do
    return .names ((← reference.gatesOf feature enabled).map Gate.name)
  | .groupsThatAre enabled => .groups <$> reference.groupsThatAre enabled feature
  | _ => .overview <$> reference.overview feature

/-- Carries out an action: what it demands, or the answer to what it asks. -/
def run (feature : String) (action : Action) : Machine Answer :=
  match action.demand? reference.registry with
  | some demand => do
    return .truth (← reference.rules.carryOut feature (← Machine.ofExcept demand))
  | none => reference.ask feature action

end Reference

end FeatureGates
