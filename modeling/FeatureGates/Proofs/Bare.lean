import FeatureGates.Proofs.Actions
import FeatureGates.Proofs.Editing

/-!
# Flags on a bare store

Without wrappers nothing is refused: a demand that can be filed is met, and
a read is answered with what the records say. So a run of accepted writes
makes of an empty store what the edits make of an empty catalog, and every
way to read the store shows that catalog. The induction is over the
writes; that the records represent the catalog is what each of them keeps
(`Demand.represents_filing`).
-/

namespace FeatureGates

variable {α : Type}

/-- The typed values of a feature with one gate closed. -/
def Records.valuesBut (records : Records) (feature : String) (gate : Gate) :
    Except Failure GateValues :=
  GateValues.ofEntries ((records.eraseCell feature gate.key).readFeature feature)

/-- The values of all gates but one can be read. -/
def Records.ReadableBut (records : Records) (feature : String) (gate : Gate) : Prop :=
  ∃ values, records.valuesBut feature gate = .ok values

namespace FlagSet

/-- Flags in a store without any wrapper. -/
def bare (store name : String) (instrumenter : Instrumenter) (registry : Registry)
    (meaning : Meaning) : FlagSet := ⟨.memory store name, instrumenter, registry, meaning⟩

variable {store : String} {registry : Registry} {frame : Frame} {w : World} {s : ReferenceState}

/-- A demand is met, or fails, as it is filed. -/
theorem run_bare_ends (name : String) (instrumenter : Instrumenter) (meaning : Meaning)
    (h : w.Holds store frame s) (feature : String) {action : Action} {demand : Demand}
    (demanded : action.demand? registry = some (.ok demand)) :
    Ends (fun answer made w' after => answer = .truth made ∧
        w'.Holds store frame { s with records := after })
      (fun w' after => w'.Holds store frame { s with records := after })
      (action.run (bare store name instrumenter registry meaning) feature w)
      (demand.filing feature s.records) := by
  have serves : Serves (bare store name instrumenter registry meaning).adapter .lenient
      (World.Holds store frame) := (serves_memory name).serves
  have ends := demand_matches serves Rules.sound_lenient feature demanded w s h
  simp only [Machine.ofExcept, Rules.carryOut_lenient, bind_apply, pure_apply, Machine.file] at ends
  have ran : (demand.filing feature).run s.records = demand.filing feature s.records := rfl
  rw [ran] at ends
  cases filed : demand.filing feature s.records with
  | ok made after =>
    rw [filed] at ends
    obtain ⟨answer, w', ran, rfl, holds⟩ := ends.of_ok
    rw [ran]
    exact ⟨rfl, holds⟩
  | error failure after =>
    rw [filed] at ends
    obtain ⟨w', ran, holds⟩ := ends.of_error
    rw [ran]
    exact ⟨rfl, holds⟩

/-- A demand that can be filed is met. -/
theorem run_bare (name : String) (instrumenter : Instrumenter) (meaning : Meaning)
    (h : w.Holds store frame s) {feature : String} {action : Action} {demand : Demand}
    (demanded : action.demand? registry = some (.ok demand)) {made : Bool} {after : Records}
    (filed : demand.filing feature s.records = .ok made after) :
    ∃ w', action.run (bare store name instrumenter registry meaning) feature w =
        .ok (.truth made) w' ∧ w'.Holds store frame { s with records := after } := by
  have ends := run_bare_ends name instrumenter meaning h feature demanded
  rw [filed] at ends
  obtain ⟨answer, w', ran, rfl, holds⟩ := ends.of_ok
  exact ⟨w', ran, holds⟩

/-- What is refused is refused before anything is filed. -/
theorem run_bare_refused (name : String) (instrumenter : Instrumenter) (meaning : Meaning)
    (h : w.Holds store frame s) (feature : String) {action : Action} {failure : Failure}
    (demanded : action.demand? registry = some (.error failure)) :
    ∃ w', action.run (bare store name instrumenter registry meaning) feature w =
        .error failure w' ∧ w'.Holds store frame s := by
  have serves : Serves (bare store name instrumenter registry meaning).adapter .lenient
      (World.Holds store frame) := (serves_memory name).serves
  exact (demand_matches serves Rules.sound_lenient feature demanded w s h).of_error

/-- A read is answered with what the records say. -/
theorem read_bare (name : String) (instrumenter : Instrumenter) (registry : Registry)
    (meaning : Meaning) (h : w.Holds store frame s) (r : Read α) :
    ∃ w', (bare store name instrumenter registry meaning).adapter.read r w =
      .ok (s.records.read r) w' ∧ w'.Holds store frame s := read_memory name h r

/-- The typed values of a feature are those that its records have, if they have any. -/
theorem gateValues_bare (name : String) (instrumenter : Instrumenter) (registry : Registry)
    (meaning : Meaning) (h : w.Holds store frame s) (feature : String) :
    ∃ w', (bare store name instrumenter registry meaning).gateValues feature w =
      match GateValues.ofEntries (s.records.readFeature feature) with
      | .ok values => .ok values w'
      | .error failure => .error failure w' := by
  obtain ⟨w', ran, -⟩ := read_bare name instrumenter registry meaning h (.get feature)
  refine ⟨w', ?_⟩
  simp only [gateValues, bind_apply, ran]
  show Run.ofExcept (GateValues.ofEntries (s.records.readFeature feature)) w' = _
  cases GateValues.ofEntries (s.records.readFeature feature) <;> rfl

/-! ## Runs of writes -/

/-- Carries out actions on features, one after another. -/
def perform (flags : FlagSet) : List (String × Action) → Run Unit
  | [] => return
  | (feature, action) :: rest => do
    let _ ← action.run flags feature
    perform flags rest

/-- What actions come to, if each of them is a write with arguments that are accepted. -/
def edits? (registry : Registry) : List (String × Action) → Option (List (String × Edit))
  | [] => some []
  | (feature, action) :: rest => do
    let edit ← action.edit? registry
    return (feature, edit) :: (← edits? registry rest)

/-- Every way to read shows the catalog. -/
structure Shows (flags : FlagSet) (world : World) (catalog : Catalog) : Prop where
  features : ∃ w, flags.adapter.read .features world = .ok catalog.names w
  one (feature : String) : ∃ raw w, flags.adapter.read (.get feature) world = .ok raw w ∧
    GateValues.ofEntries raw = .ok (catalog.values feature)
  several (features : List String) : ∃ raw w,
    flags.adapter.read (.getMulti features) world = .ok raw w ∧
      ∀ feature ∈ features, ∃ entries, raw.find? feature = some entries ∧
        GateValues.ofEntries entries = .ok (catalog.values feature)
  all : ∃ raw w, flags.adapter.read .getAll world = .ok raw w ∧
    ∀ feature, (raw.find? feature).map GateValues.ofEntries = (catalog.find? feature).map .ok

/-- Records that represent a catalog show it. -/
theorem shows_of_represents (name : String) (instrumenter : Instrumenter) (registry : Registry)
    (meaning : Meaning) (h : w.Holds store frame s) {catalog : Catalog}
    (represents : s.records.Represents catalog) :
    (bare store name instrumenter registry meaning).Shows w catalog where
  features := by
    obtain ⟨w', ran, -⟩ := read_bare name instrumenter registry meaning h .features
    have same : s.records.names = catalog.names := Table.names_congr represents.contains
    exact ⟨w', same ▸ ran⟩
  one feature := by
    obtain ⟨w', ran, -⟩ := read_bare name instrumenter registry meaning h (.get feature)
    exact ⟨_, w', ran, (represents.stored feature).typed⟩
  several features := by
    obtain ⟨w', ran, -⟩ := read_bare name instrumenter registry meaning h (.getMulti features)
    refine ⟨_, w', ran, fun feature mem => ?_⟩
    have found := Table.find?_ofRows_map features s.records.readFeature feature
    rw [if_pos mem] at found
    exact ⟨_, found, (represents.stored feature).typed⟩
  all := by
    obtain ⟨w', ran, -⟩ := read_bare name instrumenter registry meaning h .getAll
    refine ⟨_, w', ran, fun feature => ?_⟩
    have typed := (represents.stored feature).typed
    have there := represents.contains feature
    rw [Records.readFeature] at typed
    show (Option.map _ (Table.find? (s.records.map _) feature)) = _
    rw [Table.find?_map, Option.map_map]
    unfold Catalog.values at typed
    unfold Table.contains at there
    cases found : s.records.find? feature with
    | none =>
      cases listed : catalog.find? feature with
      | none => rfl
      | some values => rw [found, listed] at there; cases there
    | some cells =>
      cases listed : catalog.find? feature with
      | none => rw [found, listed] at there; cases there
      | some values =>
        rw [found, listed] at typed
        exact congrArg some typed

/-- A run of accepted writes ends with records that represent the edited catalog. -/
theorem perform_bare (name : String) (instrumenter : Instrumenter) (meaning : Meaning)
    (h : w.Holds store frame s) {catalog : Catalog}
    (represents : s.records.Represents catalog) {requests : List (String × Action)}
    {edits : List (String × Edit)} (accepted : edits? registry requests = some edits) :
    ∃ w' s', (bare store name instrumenter registry meaning).perform requests w = .ok () w' ∧
      w'.Holds store frame s' ∧
        s'.records.Represents
          (edits.foldl (fun c request => c.edit request.1 request.2) catalog) := by
  induction requests generalizing w s catalog edits with
  | nil =>
    cases accepted
    exact ⟨w, s, rfl, h, represents⟩
  | cons request rest ih =>
    obtain ⟨feature, action⟩ := request
    obtain ⟨edit, own, accepted⟩ := Option.bind_eq_some_iff.1 accepted
    obtain ⟨others, later, made⟩ := Option.bind_eq_some_iff.1 accepted
    cases made
    obtain ⟨demand, demanded, comes⟩ : ∃ demand, action.demand? registry = some (.ok demand) ∧
        demand.edit? = some edit := by
      unfold Action.edit? at own
      split at own
      · exact ⟨_, by assumption, own⟩
      · cases own
    obtain ⟨answer, after, filed, edited⟩ := Demand.represents_filing represents feature
      (Action.isRouted_demand demanded) comes
    obtain ⟨w', ran, holds⟩ := run_bare name instrumenter meaning h demanded filed
    obtain ⟨w'', s'', rest_ran, rest_holds, rest_represents⟩ := ih holds edited later
    refine ⟨w'', s'', ?_, rest_holds, rest_represents⟩
    simp only [perform, bind_apply, ran]
    exact rest_ran

theorem edits?_take {requests : List (String × Action)} {edits : List (String × Edit)}
    (h : edits? registry requests = some edits) (steps : Nat) :
    edits? registry (requests.take steps) = some (edits.take steps) := by
  induction requests generalizing edits steps with
  | nil =>
    cases h
    rw [List.take_nil, List.take_nil]
    rfl
  | cons request rest ih =>
    obtain ⟨edit, own, h⟩ := Option.bind_eq_some_iff.1 h
    obtain ⟨others, later, made⟩ := Option.bind_eq_some_iff.1 h
    cases made
    cases steps with
    | zero => rfl
    | succ steps =>
      rw [List.take_succ_cons, List.take_succ_cons, edits?, own, ih later steps]
      rfl

/-- After every step of a run of accepted writes to an empty store, every way
to read shows the catalog that the edits so far make. -/
theorem shows_of_writes (name : String) (instrumenter : Instrumenter) (meaning : Meaning)
    (available : ∀ count operation, (w.store store).outage count operation = none)
    (fresh : (w.store store).records = .empty) {requests : List (String × Action)}
    {edits : List (String × Edit)} (accepted : edits? registry requests = some edits)
    (steps : Nat) :
    ∃ w', (bare store name instrumenter registry meaning).perform (requests.take steps) w =
        .ok () w' ∧
      (bare store name instrumenter registry meaning).Shows w' (.ofEdits (edits.take steps)) := by
  have holds := World.holds_self available
  have represents : (w.store store).records.Represents .empty := fresh ▸ .empty
  obtain ⟨w', s', ran, held, edited⟩ :=
    perform_bare name instrumenter meaning holds represents (edits?_take accepted steps)
  exact ⟨w', ran, shows_of_represents name instrumenter registry meaning held edited⟩

/-- Members of two sets, an expression and a percentage, and a feature that comes and goes. -/
theorem shows_of_writes_search :
    ∃ w', (bare "store" "memory" .none .standard fun _ _ => pure (.fresh .null)).perform
        (([("search", .changeActor .enable (.actor (.text "User;1") (.record []))),
          ("search", .enableExpression (.record [(.text "Property", .text "admin")])),
          ("help", .add), ("search", .disablePercentageOfActors),
          ("search", .changeGroup .enable (.text "staff")), ("help", .remove)] :
            List (String × Action)).take 5)
        (.fresh ⟨fun _ => .int 0, 0, .int 0, [], []⟩) = .ok () w' ∧
      (bare "store" "memory" .none .standard fun _ _ => pure (.fresh .null)).Shows w'
        (.ofEdits ([("search", .enter .actors "User;1"),
          ("search", .expression (some [(.text "Property", .text "admin")])), ("help", .add),
          ("search", .percentage .actors (.int 0)), ("search", .enter .groups "staff"),
          ("help", .remove)].take 5)) :=
  shows_of_writes "memory" .none (fun _ _ => pure (.fresh .null)) (fun _ _ => rfl) rfl rfl 5

end FlagSet

end FeatureGates
