import FeatureGates.FlagSet.Check
import FeatureGates.FlagSet.Write

/-!
# Actions

Everything that can be done to a feature or asked about it, as data:
`Action.run` carries an action out and `Action.ofName?` finds it by the
name and the things that a caller gives.
-/

namespace FeatureGates

inductive Action where
  | add
  | exist
  | remove
  | clear
  | change (change : Change) (thing : Value)
  | changeActor (change : Change) (actor : Value)
  | changeGroup (change : Change) (group : Value)
  | enablePercentageOfActors (percentage : Value)
  | enablePercentageOfTime (percentage : Value)
  | enableExpression (expression : Value)
  | disablePercentageOfActors
  | disablePercentageOfTime
  | disableExpression
  | isEnabled (thing : Value)
  | state
  | hasState (state : FeatureState)
  | gateValues
  | gateValue (gate : Gate)
  | gatesThatAre (enabled : Bool)
  | gateNamesThatAre (enabled : Bool)
  | groupsThatAre (enabled : Bool)
  | overview

/-- What an action is answered with. -/
inductive Answer where
  | truth (b : Bool)
  | state (state : FeatureState)
  | values (values : GateValues)
  | value (value : Value)
  | gates (gates : List Gate)
  | names (names : List String)
  | groups (groups : List Group)
  | overview (overview : FlagSet.Overview)

namespace Action

/-- The gates of a feature that stored values open for someone, or that they do not. -/
def gatesOf (flags : FlagSet) (feature : String) (enabled : Bool) : Run (List Gate) :=
  if enabled then flags.enabledGates feature else flags.disabledGates feature

def run (flags : FlagSet) (feature : String) : Action → Run Answer
  | .add => .truth <$> flags.add feature
  | .exist => .truth <$> flags.exist feature
  | .remove => .truth <$> flags.remove feature
  | .clear => .truth <$> flags.clear feature
  | .change c thing => .truth <$> flags.change feature c thing
  | .changeActor c actor => .truth <$> flags.changeActor feature c actor
  | .changeGroup c group => .truth <$> flags.changeGroup feature c group
  | .enablePercentageOfActors p => .truth <$> flags.enablePercentageOfActors feature p
  | .enablePercentageOfTime p => .truth <$> flags.enablePercentageOfTime feature p
  | .enableExpression e => .truth <$> flags.enableExpression feature e
  | .disablePercentageOfActors => .truth <$> flags.disablePercentageOfActors feature
  | .disablePercentageOfTime => .truth <$> flags.disablePercentageOfTime feature
  | .disableExpression => .truth <$> flags.disableExpression feature
  | .isEnabled thing => .truth <$> flags.isEnabled feature thing
  | .state => .state <$> flags.state feature
  | .hasState s => do return .truth ((← flags.state feature) = s)
  | .gateValues => .values <$> flags.gateValues feature
  | .gateValue gate => do return .value ((← flags.gateValues feature).get gate)
  | .gatesThatAre enabled => .gates <$> gatesOf flags feature enabled
  | .gateNamesThatAre enabled => do
    return .names ((← gatesOf flags feature enabled).map Gate.name)
  | .groupsThatAre enabled => .groups <$> flags.groupsThatAre enabled feature
  | .overview => .overview <$> flags.overview feature

/-! ## By name -/

/-- Actions that come without a thing. -/
def plain : List (String × Action) :=
  [("add", .add), ("exist", .exist), ("remove", .remove), ("clear", .clear),
    ("enable", .change .enable .null), ("disable", .change .disable .null),
    ("disable_percentage_of_actors", .disablePercentageOfActors),
    ("disable_percentage_of_time", .disablePercentageOfTime),
    ("disable_expression", .disableExpression), ("is_enabled", .isEnabled .null),
    ("state", .state), ("is_on", .hasState .on), ("is_off", .hasState .off),
    ("is_conditional", .hasState .conditional), ("gate_values", .gateValues),
    ("boolean_value", .gateValue .boolean), ("actors_value", .gateValue .actor),
    ("groups_value", .gateValue .group),
    ("percentage_of_actors_value", .gateValue .percentageOfActors),
    ("percentage_of_time_value", .gateValue .percentageOfTime),
    ("expression_value", .gateValue .expression), ("enabled_gates", .gatesThatAre true),
    ("disabled_gates", .gatesThatAre false), ("enabled_gate_names", .gateNamesThatAre true),
    ("disabled_gate_names", .gateNamesThatAre false), ("enabled_groups", .groupsThatAre true),
    ("disabled_groups", .groupsThatAre false), ("to_dict", .overview)]

/-- Actions on a thing. -/
def onThing : List (String × (Value → Action)) :=
  [("enable", .change .enable), ("disable", .change .disable), ("is_enabled", .isEnabled),
    ("enable_actor", .changeActor .enable), ("disable_actor", .changeActor .disable),
    ("enable_group", .changeGroup .enable), ("disable_group", .changeGroup .disable),
    ("enable_percentage_of_actors", .enablePercentageOfActors),
    ("enable_percentage_of_time", .enablePercentageOfTime),
    ("enable_expression", .enableExpression)]

def ofName? (name : String) : List Value → Option Action
  | [] => plain.lookup name
  | [thing] => (onThing.lookup name).map (· thing)
  | _ => none

end Action

end FeatureGates
