import FeatureGates.Json.Token
import FeatureGates.Value.Equality

/-!
# Reading JSON

The tokens of a text are run over a stack of the lists and records that
are open; `read?` gives the value if the text is exactly one. Of two equal
keys in a record the last value counts, in the place of the first.
-/

namespace FeatureGates.Json

/-- A list or record that is open, with what it holds so far; the items
of a list are in reverse. -/
inductive Frame where
  | list (items : List Value)
  | record (entries : Entries)
  | field (entries : Entries) (key : String)

/-- What may come next. -/
inductive Expected where
  | value
  | valueOrClose
  | key
  | keyOrClose
  | colon
  | separator
  | nothing

structure Reader where
  stack : List Frame
  expected : Expected
  result : Value

namespace Reader

def start : Reader := ⟨[], .value, .null⟩

/-- Hands a finished value to the innermost open frame. -/
def deliver (stack : List Frame) (value : Value) : Option Reader :=
  match stack with
  | [] => some ⟨[], .nothing, value⟩
  | .list items :: rest => some ⟨.list (value :: items) :: rest, .separator, .null⟩
  | .field entries key :: rest =>
    some ⟨.record (Entries.put entries (.text key) value) :: rest, .separator, .null⟩
  | .record _ :: _ => none

/-- Closes the innermost frame. -/
def close (token : Token) (stack : List Frame) : Option Reader :=
  match token, stack with
  | .closeList, .list items :: rest => deliver rest (.list items.reverse)
  | .closeRecord, .record entries :: rest => deliver rest (.record entries)
  | _, _ => none

/-- A token where a value has to come. -/
def openValue (token : Token) (stack : List Frame) : Option Reader :=
  match token with
  | .scalar value => deliver stack (.scalar value)
  | .openList => some ⟨.list [] :: stack, .valueOrClose, .null⟩
  | .openRecord => some ⟨.record [] :: stack, .keyOrClose, .null⟩
  | _ => none

/-- A token where a key has to come. -/
def openField (token : Token) (stack : List Frame) : Option Reader :=
  match token, stack with
  | .scalar (.text key), .record entries :: rest =>
    some ⟨.field entries key :: rest, .colon, .null⟩
  | _, _ => none

def step (reader : Reader) (token : Token) : Option Reader :=
  match reader.expected with
  | .value => openValue token reader.stack
  | .valueOrClose =>
    match token with
    | .closeList => close token reader.stack
    | _ => openValue token reader.stack
  | .key => openField token reader.stack
  | .keyOrClose =>
    match token with
    | .closeRecord => close token reader.stack
    | _ => openField token reader.stack
  | .colon =>
    match token with
    | .colon => some { reader with expected := .value }
    | _ => none
  | .separator =>
    match token, reader.stack with
    | .comma, .list _ :: _ => some { reader with expected := .value }
    | .comma, .record _ :: _ => some { reader with expected := .key }
    | _, stack => close token stack
  | .nothing => none

end Reader

/-- The value of a text that is exactly one JSON value. -/
def read? (s : String) : Option Value := do
  let tokens ← Token.scanAll s.toList
  let reader ← tokens.foldlM Reader.step Reader.start
  match reader.expected with
  | .nothing => some reader.result
  | _ => none

end FeatureGates.Json
