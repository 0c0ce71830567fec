import FeatureGates.Value.Basic

/-!
# Equality of values

`Value.equals` compares by content: numbers by exact value with truth
values counting as zero and one, sequences item by item, sets and records
without regard to order, wrappers of one kind by what they hold.

Members of a set and keys of a record have to be hashable.
-/

namespace FeatureGates

/-- Scalars of which there is one object only: null, the truth values, small
integers and texts of at most one character of the first 256. Boolean
wrappers are equal if they hold one object. -/
def Scalar.isShared : Scalar → Bool
  | .null | .bool _ => true
  | .number (.int n) => -5 ≤ n && n ≤ 256
  | .number (.float _) => false
  | .text s => match s.toList with
    | [] => true
    | [c] => c.toNat < 256
    | _ => false

namespace Value

/-- Both are one object. -/
def sameObject : Value → Value → Bool
  | .scalar a, .scalar b => a.isShared && a = b
  | _, _ => false

mutual

def equals : Value → Value → Bool
  | .scalar a, .scalar b => a.equals b
  | .list xs, .list ys => equalsAll xs ys
  | .tuple xs, .tuple ys => equalsAll xs ys
  | .set xs, .set ys => xs.length = ys.length && subset xs ys
  | .record xs, .record ys => xs.length = ys.length && subrecord xs ys
  | .actor i p, .actor j q => equals i j && equals p q
  | .object xs, .object ys => xs.length = ys.length && subobject xs ys
  | .node s, .node t => s.equals t
  | .wrapped a, .wrapped b => equalsWrapped a b
  | _, _ => false

def equalsAll : List Value → List Value → Bool
  | [], [] => true
  | x :: xs, y :: ys => equals x y && equalsAll xs ys
  | _, _ => false

/-- Every item of the first has an equal one in the second. -/
def subset : List Value → List Value → Bool
  | [], _ => true
  | x :: xs, ys => ys.any (fun y => equals x y) && subset xs ys

def subrecord : List (Value × Value) → List (Value × Value) → Bool
  | [], _ => true
  | (key, value) :: xs, ys =>
    ys.any (fun y => equals key y.1 && equals value y.2) && subrecord xs ys

def subobject : List (String × Value) → List (String × Value) → Bool
  | [], _ => true
  | (name, value) :: xs, ys =>
    ys.any (fun y => name = y.1 && equals value y.2) && subobject xs ys

def equalsWrapped : Wrapped → Wrapped → Bool
  | .actor _ i, .actor _ j => i = j
  | .group a, .group b => equals a b
  | .boolean a, .boolean b => sameObject a b
  | .percentageOfActors p, .percentageOfActors q => p.value.eq q.value
  | .percentageOfTime p, .percentageOfTime q => p.value.eq q.value
  | .expression s, .expression t => s.equals t
  | _, _ => false

end

/-! ## Hashable values -/

mutual

/-- The kind of the first part that cannot be hashed, `none` if all can. -/
def unhashable? : Value → Option String
  | .scalar _ => none
  | .tuple items => unhashableIn? items
  | .wrapped (.group name) => unhashable? name
  | .wrapped (.boolean value) => unhashable? value
  | .wrapped (.expression _) => some "ExpressionType"
  | .wrapped _ => none
  | value => some value.kind

def unhashableIn? : List Value → Option String
  | [] => none
  | item :: rest => (unhashable? item).or (unhashableIn? rest)

end

def requireHashable (value : Value) : Except Failure Unit :=
  match value.unhashable? with
  | some kind => .error (.unhashable kind)
  | none => .ok ()

/-- Adds a member unless an equal one is there. -/
def insertMember (members : List Value) (value : Value) : List Value :=
  if members.any (·.equals value) then members else members ++ [value]

/-- The members of a set of the given things, the first of equal ones kept. -/
def distinct (things : List Value) : Except Failure (List Value) :=
  things.foldlM (fun members thing => do
    requireHashable thing
    return insertMember members thing) []

end Value

namespace Entries

/-- Puts a value under a key: in place if an equal key is there, else last. -/
def put : Entries → Value → Value → Entries
  | [], key, value => [(key, value)]
  | (k, v) :: rest, key, value =>
    if k.equals key then (k, value) :: rest else (k, v) :: put rest key value

/-- The value under a key equal to the given one. -/
def find? : Entries → Value → Option Value
  | [], _ => none
  | (k, v) :: rest, key => if k.equals key then some v else find? rest key

end Entries

end FeatureGates
