import FeatureGates.Text.CodePoints
import FeatureGates.Value.Basic

/-!
# Surroundings of a check

What evaluation meets outside itself: a stream of random draws, a clock,
the sightings that callbacks and stores leave behind, and the log. A check
(`Check`) runs in surroundings and may fail; draws, sightings and log lines
up to a failure stay.
-/

namespace FeatureGates

/-- What was seen to be used: something that makes itself known under a
tag, or a call that reached a store. -/
inductive Sighting where
  | note (tag : String) (value : Value)
  | call (store operation : String) (keys : List String)

inductive LogLevel where
  | debug
  | warning
deriving DecidableEq

def LogLevel.name : LogLevel → String
  | .debug => "debug"
  | .warning => "warning"

/-- What a field of a line of the log holds. -/
inductive LogField where
  | value (value : Value)
  | name (name : CodePoints)

/-- Values as the fields of a line of the log. -/
def LogField.ofValues (fields : List (String × Value)) : List (String × LogField) :=
  fields.map fun field => (field.1, .value field.2)

/-- A line of the log: its message, its named fields, and whether it also
tells the time that something took. -/
structure LogLine where
  level : LogLevel
  message : String
  fields : List (String × LogField)
  timed : Bool

structure Surroundings where
  /-- The stream of draws, by position. -/
  stream : Nat → Number
  /-- How many draws have been made. -/
  drawn : Nat
  clock : Number
  sightings : List Sighting
  log : List LogLine

abbrev Check := EStateM Failure Surroundings

namespace Check

/-- The next random draw. -/
def draw : Check Number := do
  let s ← get
  set { s with drawn := s.drawn + 1 }
  return s.stream s.drawn

/-- What the clock shows, in seconds. -/
def now : Check Number := do return (← get).clock

def sight (sighting : Sighting) : Check Unit :=
  modify fun s => { s with sightings := s.sightings ++ [sighting] }

def logLine (line : LogLine) : Check Unit :=
  modify fun s => { s with log := s.log ++ [line] }

/-- Writes a warning to the log. -/
def warn (message : String) (fields : List (String × LogField)) : Check Unit :=
  logLine ⟨.warning, message, fields, false⟩

def ofExcept (result : Except Failure α) : Check α :=
  match result with
  | .ok value => pure value
  | .error failure => throw failure

instance : MonadLift (Except Failure) Check := ⟨ofExcept⟩

end Check

end FeatureGates
