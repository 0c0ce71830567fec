import FeatureGates.Text.Blank
import FeatureGates.Time.Iso
import FeatureGates.Time.Mail
import FeatureGates.Value.Basic

/-!
# Timestamps

`Timestamp.read` turns a value into seconds since the beginning of 1970. A
number counts milliseconds, and so does a text of digits; any other text is
tried as an ISO 8601 instant and then as a mail date. What is none of these
is NaN.
-/

namespace FeatureGates.Timestamp

open FeatureGates.Text

/-- Whole seconds of a number of milliseconds, NaN if it is not finite. -/
def ofMilliseconds (n : Number) : Except Failure Number :=
  match n.divNat 1000 with
  | .error _ => .ok (.float .nan)
  | .ok seconds =>
    if seconds.isFinite then (Number.float seconds).floor.map .int else .ok (.float .nan)

/-- Seconds of an instant, NaN without one. -/
def ofInstant : Option Time.Instant → Except Failure Number
  | some instant => instant.unixSeconds.map .int
  | none => .ok (.float .nan)

def ofText (s : String) : Except Failure Number :=
  let cs := trim isBlank s.toList
  if !cs.isEmpty && cs.all isDigit then
    match readInt 10 cs with
    | .ok n => ofMilliseconds (.int n)
    | .error _ => .ok (.float .nan)
  else
    let trimmed := String.ofList cs
    match Time.Iso.read? trimmed with
    | some instant => ofInstant (some instant)
    | none => do ofInstant (← Time.Mail.read trimmed)

/-- Seconds since the beginning of 1970, NaN for what is no time. -/
def read (value : Value) : Except Failure Number :=
  match value with
  | .number n => ofMilliseconds n
  | .text s => ofText s
  | _ => ofText ""

end FeatureGates.Timestamp
