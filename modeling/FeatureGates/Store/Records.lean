import FeatureGates.Store.Cell

/-!
# Records

What one store holds: for every feature that exists, the cells of its
gates. `Records.read` answers reads. Writes run as a `Filing`, which may
fail; what it has changed by then stays.

Enabling or disabling makes the feature exist. A truth value is kept as the
text `true`, a number as its text, and a set as the texts of its members.
-/

namespace FeatureGates

abbrev Cells := Table Cell

abbrev Records := Table Cells

namespace Records

/-! ## Reading -/

def readCells (cells : Cells) : Entries :=
  cells.rows.map fun row => (.text row.1, row.2.read row.1)

/-- The raw values of a feature; none if it does not exist. -/
def readFeature (records : Records) (feature : String) : Entries :=
  readCells ((records.find? feature).getD .empty)

def readAll (records : Records) : RawFeatures := records.map fun _ cells => readCells cells

def read {α : Type} (records : Records) : Read α → α
  | .features => records.names
  | .get feature => records.readFeature feature
  | .getMulti features => .ofRows (features.map fun f => (f, records.readFeature f))
  | .getAll => records.readAll

/-! ## Writing -/

/-- Makes the feature exist, with no values if it is new. -/
def ensure (records : Records) (feature : String) : Records :=
  if records.contains feature then records else records.put feature .empty

/-- Takes away all values of the feature, which goes on to exist. -/
def clear (records : Records) (feature : String) : Records :=
  if records.contains feature then records.put feature .empty else records

def remove (records : Records) (feature : String) : Records := records.erase feature

def cell? (records : Records) (feature key : String) : Option Cell :=
  (records.find? feature).bind (·.find? key)

def putCell (records : Records) (feature key : String) (cell : Cell) : Records :=
  records.put feature (((records.find? feature).getD .empty).put key cell)

def eraseCell (records : Records) (feature key : String) : Records :=
  match records.find? feature with
  | some cells => records.put feature (cells.erase key)
  | none => records

end Records

abbrev Filing := EStateM Failure Records

namespace Filing

def ofExcept {α : Type} (result : Except Failure α) : Filing α :=
  match result with
  | .ok value => pure value
  | .error failure => throw failure

/-- The members of a cell that holds a set; the failure names what was wanted of it. -/
def members (cell : Cell) (wanted : String) : Except Failure (List Value) :=
  match cell with
  | .plain (.set members) => .ok members
  | .plain value => .error (.noMember value.kind wanted)
  | .document value => .error (.noMember value.kind wanted)

/-- The text of what a thing holds. -/
def heldText (thing : Value) : Except Failure String := do (← thing.heldValue).shown

/-- What a thing holds, as a document. A bare tree holds only the means to get at its notation. -/
def heldDocument (thing : Value) : Except Failure Value :=
  match thing with
  | .node _ => .error (.notSerializable "method")
  | _ => do (← thing.heldValue).toDocument

def putText (feature key : String) (thing : Value) : Filing Unit := do
  let text ← ofExcept (heldText thing)
  modify (·.putCell feature key (.plain (.text text)))

/-- The members under a key, of an empty set that is put there if there is nothing. -/
def openSet (feature key : String) : Filing (List Value) := do
  match (← get).cell? feature key with
  | some cell => ofExcept (members cell "add")
  | none =>
    modify (·.putCell feature key (.plain (.set [])))
    return []

def insertMember (feature key : String) (thing : Value) : Filing Unit := do
  let old ← openSet feature key
  let text ← ofExcept (heldText thing)
  modify (·.putCell feature key (.plain (.set (Value.insertMember old (.text text)))))

def eraseMember (feature key : String) (thing : Value) : Filing Unit := do
  match (← get).cell? feature key with
  | some cell =>
    let old ← ofExcept (members cell "discard")
    let text ← ofExcept (heldText thing)
    modify (·.putCell feature key (.plain (.set (old.filter fun m => !m.equals (.text text)))))
  | none =>
    let _ ← ofExcept (heldText thing)

def putDocument (feature key : String) (thing : Value) : Filing Unit := do
  let document ← ofExcept (heldDocument thing)
  modify (·.putCell feature key (.document document))

/-- Makes the feature exist; whether it is new. -/
def add (feature : String) : Filing Bool := do
  let records ← get
  if records.contains feature then return false
  set (records.put feature .empty)
  return true

def remove (feature : String) : Filing Bool := do
  modify (·.remove feature)
  return true

def clear (feature : String) : Filing Bool := do
  modify (·.clear feature)
  return true

def enable (feature : String) (slot : Slot) (thing : Value) : Filing Bool := do
  modify (·.ensure feature)
  match slot.dataType? with
  | some .boolean => modify (·.putCell feature slot.key (.plain (.text "true")))
  | some .number => putText feature slot.key thing
  | some .set => insertMember feature slot.key thing
  | some .document => putDocument feature slot.key thing
  | none => throw (.unsupportedGate slot.name)
  return true

/-- Disabling a truth value takes away all values of the feature. That is
left to a clearing of its own, which `disable` asks for by its answer. -/
def disable (feature : String) (slot : Slot) (thing : Value) : Filing Bool := do
  modify (·.ensure feature)
  match slot.dataType? with
  | some .boolean => return true
  | some .number => putText feature slot.key thing
  | some .set => eraseMember feature slot.key thing
  | some .document => modify (·.eraseCell feature slot.key)
  | none => throw (.unsupportedGate slot.name)
  return false

end Filing

end FeatureGates
