import FeatureGates.Settings.Basic
import FeatureGates.Text.Casing

/-!
# Setting up the log

The threshold of the log is given by name, in any case; an unknown name
means the threshold of information. The log is written as JSON or, for any
other format, as text. A line is written if its level reaches the threshold.
-/

namespace FeatureGates

namespace Logging

def levels : List (String × Nat) :=
  [("CRITICAL", 50), ("FATAL", 50), ("ERROR", 40), ("WARNING", 30), ("WARN", 30), ("INFO", 20),
    ("DEBUG", 10), ("NOTSET", 0)]

def infoLevel : Nat := 20

/-- The threshold of a name. Two names are taken by other things than thresholds. -/
def threshold (name : String) : Except Failure Nat :=
  let upper := Text.asciiUpper name
  if upper = "BASIC_FORMAT" then .error .wrongValue
  else if upper = "_STYLES" then .error .wrongCall
  else .ok ((levels.lookup upper).getD infoLevel)

/-- How the log has been set up. -/
structure Setup where
  threshold : Nat
  asJson : Bool

def setup (level format : String) : Except Failure Setup := do
  return ⟨← threshold level, format = "json"⟩

/-- The levels that lines are written at. -/
def lineLevels : List (String × Nat) :=
  [("debug", 10), ("info", 20), ("warning", 30), ("error", 40), ("critical", 50)]

/-- The levels whose lines are written. -/
def Setup.written (setup : Setup) : List String :=
  (lineLevels.filter fun level => setup.threshold ≤ level.2).map (·.1)

end Logging

end FeatureGates
