import FeatureGates.World

/-!
# Observing operations

An instrumenter runs an operation on a payload and makes an event of it, in
memory or in the log, whether it succeeds or fails. Observing changes
neither the outcome nor anything else that the operation does
(`Instrumenter.observe`), with one exception: an instrumenter that logs
fails itself if a field of the payload has the name of one of its own.
-/

namespace FeatureGates

inductive Instrumenter where
  | none
  | memory
  | logging
deriving DecidableEq

/-- An operation that is observed: it goes on in the world and may change its payload. -/
abbrev Observed := EStateM Failure (Payload × World)

namespace Observed

variable {α : Type}

def ofRun (run : Run α) : Observed α := fun (payload, world) =>
  match run world with
  | .ok value world => .ok value (payload, world)
  | .error failure world => .error failure (payload, world)

instance : MonadLift Run Observed := ⟨ofRun⟩

/-- Adds a field to the payload. -/
def note (name : String) (value : Value) : Observed Unit :=
  modify fun (payload, world) => (payload.put name value, world)

end Observed

namespace Instrumenter

variable {α : Type}

def record (event : Event) : Run Unit :=
  modify fun world => { world with events := world.events ++ [event] }

/-- The payload as fields of a line of the log, where `event` is taken. -/
def loggable (payload : Payload) : Payload :=
  .ofRows (payload.rows.map fun row => (if row.1 = "event" then "payload_event" else row.1, row.2))

/-- Logs the end of an operation: its name, how long it took and its payload. -/
def logEnd (name : String) (payload : Payload) : Option Failure → Run Unit
  | Option.none => do
    if (loggable payload).contains "elapsed_ms" then throw .repeatedField
    Run.ofCheck (Check.logLine
      ⟨.debug, name, LogField.ofValues (loggable payload).rows, true⟩)
  | some failure => do
    let fields := loggable payload
    if fields.contains "elapsed_ms" || fields.contains "error" then throw .repeatedFieldOnFailure
    Run.ofCheck (Check.logLine
      ⟨.warning, name, LogField.ofValues (("error", .text failure.message) :: fields.rows), true⟩)

/-- Reports the end of an operation. -/
def report (instrumenter : Instrumenter) (name : String) (payload : Payload)
    (failure : Option Failure) (result : Value) : Run Unit :=
  match instrumenter with
  | .none => pure ()
  | .memory => record ⟨name, payload, failure, result⟩
  | .logging => logEnd name payload failure

/-- Runs an operation under observation. In memory the payload is a copy;
the one given stays as it is. -/
def instrument (instrumenter : Instrumenter) (name : String) (shown : α → Value)
    (operation : Observed α) : Observed α := fun (payload, world) =>
  let given (after : Payload) := if instrumenter = .memory then payload else after
  match operation (payload, world) with
  | .ok value (after, world) =>
    match instrumenter.report name after Option.none (shown value) world with
    | .ok _ world => .ok value (given after, world)
    | .error failure world => .error failure (given after, world)
  | .error failure (after, world) =>
    match instrumenter.report name after (some failure) .null world with
    | .ok _ world => .error failure (given after, world)
    | .error other world => .error other (given after, world)

/-- Runs an operation under observation, on a payload of its own. -/
def observe (instrumenter : Instrumenter) (name : String) (payload : List (String × Value))
    (shown : α → Value) (operation : Observed α) : Run α := fun world =>
  match instrumenter.instrument name shown operation (.ofRows payload, world) with
  | .ok value (_, world) => .ok value world
  | .error failure (_, world) => .error failure world

end Instrumenter

end FeatureGates
