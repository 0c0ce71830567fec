import FeatureGates.Gate.Thing
import FeatureGates.Settings.Merge
import FeatureGates.Settings.Validate
import FeatureGates.Yaml.Reader

/-!
# Loading settings

Settings are written in two files, of which the second is laid over the
first; the second may be missing. An empty document is an empty record.
-/

namespace FeatureGates

/-- What stands where a file is looked for. -/
inductive Source where
  | absent
  | directory
  | file (bytes : ByteArray)

namespace Source

/-- Lines of a text end in one and the same way. -/
def unifyBreaks : List Char → List Char
  | [] => []
  | '\r' :: '\n' :: rest => '\n' :: unifyBreaks rest
  | c :: rest => (if c = '\r' then '\n' else c) :: unifyBreaks rest

/-- The text of a file. -/
def text : Source → Except Failure String
  | .absent => .error (.config .unreadable)
  | .directory => .error (.config .unreadable)
  | .file bytes =>
    match String.fromUTF8? bytes with
    | some s => .ok (String.ofList (unifyBreaks s.toList))
    | none => .error .notUtf8

/-- The value of the document in a file; an absent one counts as the empty record. -/
def document (source : Source) : Except Failure Value := do
  let value ← Yaml.read (← source.text)
  return if value.isPresent then value else .emptyRecord

end Source

namespace Settings

/-- The settings of two files, of which the second may be missing. -/
def load (base upper : Source) : Except Failure Settings := do
  let document ← base.document
  match upper with
  | .absent => ofValue document
  | _ => ofValue (← document.deepMerge (← upper.document))

end Settings

end FeatureGates
