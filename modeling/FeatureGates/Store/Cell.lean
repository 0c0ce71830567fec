import FeatureGates.Store.Operation

/-!
# Cells

A cell is what a store keeps under the key of one gate: a plain value, or a
document. A document is kept as the JSON value it stands for
(`Value.toDocument`): tuples are lists, keys are texts, and of two entries
with one key the later counts.

Under the key of a gate of documents a reader finds a record or null,
whatever is in the cell (`Cell.read`).
-/

namespace FeatureGates

namespace Value

/-! ## Documents -/

/-- The text of a key of a document. -/
def documentKey (key : Value) : Except Failure String :=
  match key with
  | .text s => .ok s
  | .null => .ok "null"
  | .bool b => .ok (if b then "true" else "false")
  | .number (.float (.infinite negative)) => .ok (if negative then "-Infinity" else "Infinity")
  | .number (.float .nan) => .ok "NaN"
  | .number n => n.written
  | _ => .error (.keyNotSerializable key.shortKind)

/-- The later of two entries with one key counts, at the place of the first. -/
def ofDocumentFields (fields : List (String × Value)) : Value := .ofFields (Table.ofRows fields).rows

mutual

/-- The JSON value that a value is kept as, if it has one. An integer has
to be short enough to be written. -/
def toDocument : Value → Except Failure Value
  | .scalar s => do
    let _ ← s.written
    return .scalar s
  | .list items => do return .list (← toDocuments items)
  | .tuple items => do return .list (← toDocuments items)
  | .record entries => do return ofDocumentFields (← toDocumentFields entries)
  | .set items => .error (.notSerializable (shortKind (.set items)))
  | .actor id properties => .error (.notSerializable (shortKind (.actor id properties)))
  | .object attributes => .error (.notSerializable (shortKind (.object attributes)))
  | .node tree => .error (.notSerializable (shortKind (.node tree)))
  | .wrapped thing => .error (.notSerializable (shortKind (.wrapped thing)))

def toDocuments : List Value → Except Failure (List Value)
  | [] => .ok []
  | item :: rest => do return (← toDocument item) :: (← toDocuments rest)

def toDocumentFields : List (Value × Value) → Except Failure (List (String × Value))
  | [] => .ok []
  | (key, value) :: rest => do
    return (← documentKey key, ← toDocument value) :: (← toDocumentFields rest)

end

end Value

/-! ## Cells -/

inductive Cell where
  | plain (value : Value)
  | document (value : Value)

namespace Cell

/-- A record as it is, null in place of anything else. -/
def recordOrNull : Value → Value
  | .record entries => .record entries
  | _ => .null

/-- What a gate of documents finds: the record that a document or a JSON text stands for. -/
def readDocument : Cell → Value
  | .document value => recordOrNull value
  | .plain (.text s) => recordOrNull ((Json.read? s).getD .null)
  | .plain _ => .null

/-- What a reader finds under the key of the cell. -/
def read (key : String) (cell : Cell) : Value :=
  if Gate.order.any fun gate => gate.dataType = .document && gate.key = key then
    cell.readDocument
  else
    match cell with
    | .plain value => value
    | .document value => value

end Cell

end FeatureGates
