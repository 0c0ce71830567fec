/-!
# Failures

What can go wrong, by cause. `Failure.message` is the one place that
words a cause, `Failure.category` the class it is caught by.

A category stands in a small hierarchy (`Category.isA`): whoever catches
`value` catches `decoding` too, and `any` catches everything.
-/

namespace FeatureGates

/-! ## Categories -/

inductive Category where
  | any
  | runtime
  | value
  | decoding
  | encoding
  | system
  | connection
  | overflow
  | kind
  | key
  | member
  | flag
  | featureMissing
  | writeAttempted
  | actorLimit
  | configuration
deriving DecidableEq

namespace Category

/-- The category and all above it, nearest first. -/
def ancestors : Category → List Category
  | .any => [.any]
  | .decoding => [.decoding, .value, .any]
  | .encoding => [.encoding, .value, .any]
  | .connection => [.connection, .system, .any]
  | .featureMissing => [.featureMissing, .flag, .any]
  | .writeAttempted => [.writeAttempted, .flag, .any]
  | .actorLimit => [.actorLimit, .flag, .any]
  | .configuration => [.configuration, .flag, .any]
  | category => [category, .any]

/-- Whoever catches `other` catches `category`. -/
def isA (category other : Category) : Bool := category.ancestors.contains other

theorem isA_self (category : Category) : category.isA category = true := by
  cases category <;> decide

theorem isA_any (category : Category) : category.isA .any = true := by
  cases category <;> decide

end Category

/-! ## Causes -/

/-- What a thing was wanted as. -/
inductive Role where
  | actor
  | group
  | boolean
  | percentage
  | expression
deriving DecidableEq

def Role.name : Role → String
  | .actor => "actor"
  | .group => "group"
  | .boolean => "boolean"
  | .percentage => "percentage"
  | .expression => "expression"

/-- How many arguments an operator takes; no `most` means any number from `least` on. -/
structure Arity where
  least : Nat
  most : Option Nat
deriving DecidableEq

namespace Arity

def admits (arity : Arity) (count : Nat) : Bool :=
  arity.least ≤ count && (match arity.most with | some most => count ≤ most | none => true)

def expected (arity : Arity) : String :=
  match arity.most with
  | none => s!"at least {arity.least}"
  | some most => if arity.least = most then s!"{most}" else s!"{arity.least} to {most}"

end Arity

/-- Failures of things outside the library, as storage or a callback reports them. -/
inductive Outside where
  | any
  | runtime
  | value
  | system
  | connection
deriving DecidableEq

def Outside.category : Outside → Category
  | .any => .any
  | .runtime => .runtime
  | .value => .value
  | .system => .system
  | .connection => .connection

/-- Why a document of settings was not accepted. -/
inductive ConfigFault where
  | unreadable
  | unparsable
  | invalid (fields : List String)
deriving DecidableEq

/-- Which bound a part of a date or the days of an offset overran. -/
inductive DateFault where
  | aboveGreatest
  | belowLeast
  | beyondLong
  | offsetDays (days : Int)
  | offsetBeyondInt
deriving DecidableEq

inductive Failure where
  /- things and gates -/
  | invalidThing (role : Role) (written : String)
  | percentageOutOfRange (shown : String)
  | unsupportedGate (gate : String)
  | noGate (written : String)
  | featureNotFound (feature : String)
  | writeAttempted (reason : String)
  | actorLimitExceeded (feature : String) (limit : Int)
  | coded (code text : String)
  /- expressions -/
  | wrongKeyCount (keys : String)
  | unknownOperator (name : String)
  | wrongArgumentCount (name : String) (arity : Arity) (count : Nat)
  | constantNotScalar (written : String)
  | notAnExpression (written : String)
  | notAnArgument (written : String)
  | unknownDurationUnit (unit : String)
  | durationNotANumber (written : String)
  /- numbers and their text -/
  | intTooLarge
  | quotientTooLarge
  | infiniteToInt
  | nanToInt
  | numberTooLong
  | numeralTooLong (digits : Nat)
  | dateOutOfRange (fault : DateFault)
  /- kinds of values -/
  | noMember (kind name : String)
  | notCallable (kind : String)
  | unordered (left right : String)
  | unhashable (kind : String)
  | notSerializable (kind : String)
  | keyNotSerializable (kind : String)
  | notPairs
  | pairOfWrongSize
  | wrongCall
  | repeatedField
  | repeatedFieldOnFailure
  | unknownField
  | wrongValue
  | notUtf8
  | notEncodable (position : Nat) (surrogates : List Nat)
  /- settings -/
  | config (fault : ConfigFault)
  /- the world around -/
  | outside (source : Outside) (text : String)
deriving DecidableEq

namespace Failure

/-- The units a duration may be given in. -/
def durationUnits : List String := ["second", "minute", "hour", "day", "week", "month", "year"]

/-- Why a read-only adapter refuses a write. -/
def readOnlyReason : String := "write attempted while in read only mode"

/-- The code of a failure of the library's own. -/
def code? : Failure → Option String
  | .invalidThing _ _ => some "INVALID_TYPE"
  | .percentageOutOfRange _ => some "INVALID_PERCENTAGE"
  | .unsupportedGate _ => some "INVALID_TYPE"
  | .noGate _ => some "GATE_NOT_FOUND"
  | .featureNotFound _ => some "FEATURE_NOT_FOUND"
  | .writeAttempted _ => some "READ_ONLY"
  | .actorLimitExceeded _ _ => some "ACTOR_LIMIT_EXCEEDED"
  | .coded code _ => some code
  | .wrongKeyCount _ => some "INVALID_EXPRESSION"
  | .unknownOperator _ => some "UNKNOWN_EXPRESSION"
  | .wrongArgumentCount _ _ _ => some "INVALID_EXPRESSION"
  | .constantNotScalar _ => some "INVALID_EXPRESSION"
  | .notAnExpression _ => some "INVALID_EXPRESSION"
  | .notAnArgument _ => some "INVALID_EXPRESSION"
  | .unknownDurationUnit _ => some "INVALID_DURATION"
  | .durationNotANumber _ => some "INVALID_DURATION"
  | .config .unreadable => some "CONFIG_READ"
  | .config .unparsable => some "CONFIG_PARSE"
  | .config (.invalid _) => some "CONFIG_VALIDATION"
  | _ => none

def category : Failure → Category
  | .featureNotFound _ => .featureMissing
  | .writeAttempted _ => .writeAttempted
  | .actorLimitExceeded _ _ => .actorLimit
  | .config _ => .configuration
  | .intTooLarge | .quotientTooLarge | .infiniteToInt | .dateOutOfRange _ => .overflow
  | .nanToInt | .numberTooLong | .numeralTooLong _ | .pairOfWrongSize | .wrongValue => .value
  | .noMember _ _ => .member
  | .notCallable _ | .unordered _ _ | .unhashable _ | .notSerializable _ | .keyNotSerializable _
  | .notPairs | .wrongCall | .repeatedField => .kind
  | .repeatedFieldOnFailure | .unknownField => .key
  | .notUtf8 => .decoding
  | .notEncodable _ _ => .encoding
  | .outside source _ => source.category
  | _ => .flag

/-- The wording of a cause, without its code. -/
def text : Failure → String
  | .invalidThing role written => s!"Invalid {role.name} type: {written}"
  | .percentageOutOfRange shown =>
    s!"value must be a positive number less than or equal to 100, but was {shown}"
  | .unsupportedGate gate => s!"{gate} is not supported by this adapter"
  | .noGate written => s!"No gate found for {written}"
  | .featureNotFound feature =>
    s!"Could not find feature \"{feature}\". Call `flipper.add(\"{feature}\")` to create it."
  | .writeAttempted reason => reason
  | .actorLimitExceeded feature limit => s!"Actor limit of {limit} exceeded for feature {feature}"
  | .coded _ text => text
  | .wrongKeyCount keys => s!"Expression object must have exactly one key, got {keys}"
  | .unknownOperator name => s!"Unknown expression type: {name}"
  | .wrongArgumentCount name arity count =>
    s!"{name} expects {arity.expected} argument(s), got {count}"
  | .constantNotScalar written =>
    s!"Constant must be a string, number, boolean or null, but was {written}"
  | .notAnExpression written => s!"{written} cannot be converted into an expression"
  | .notAnArgument written =>
    s!"{written} cannot be converted into an expression, use build_expression for object notation"
  | .unknownDurationUnit unit =>
    let units := ", ".intercalate durationUnits
    s!"Duration unit {unit} must be one of: {units}"
  | .durationNotANumber written => s!"Duration value must be a number but was {written}"
  | .intTooLarge => "int too large to convert to float"
  | .quotientTooLarge => "integer division result too large for a float"
  | .infiniteToInt => "cannot convert float infinity to integer"
  | .nanToInt => "cannot convert float NaN to integer"
  | .numberTooLong =>
    "Exceeds the limit (4300 digits) for integer string conversion; "
      ++ "use sys.set_int_max_str_digits() to increase the limit"
  | .numeralTooLong digits =>
    s!"Exceeds the limit (4300 digits) for integer string conversion: value has {digits} digits; "
      ++ "use sys.set_int_max_str_digits() to increase the limit"
  | .dateOutOfRange .aboveGreatest => "signed integer is greater than maximum"
  | .dateOutOfRange .belowLeast => "signed integer is less than minimum"
  | .dateOutOfRange .beyondLong => "Python int too large to convert to C long"
  | .dateOutOfRange .offsetBeyondInt => "Python int too large to convert to C int"
  | .dateOutOfRange (.offsetDays days) => s!"days={days}; must have magnitude <= 999999999"
  | .noMember kind name => s!"'{kind}' object has no attribute '{name}'"
  | .notCallable kind => s!"'{kind}' object is not callable"
  | .unordered left right => s!"'<' not supported between instances of '{left}' and '{right}'"
  | .unhashable kind => s!"unhashable type: '{kind}'"
  | .notSerializable kind => s!"Object of type {kind} is not JSON serializable"
  | .keyNotSerializable kind => s!"keys must be str, int, float, bool or None, not {kind}"
  | .notPairs => "cannot convert dictionary update sequence element to a sequence"
  | .pairOfWrongSize => "dictionary update sequence element has the wrong length; 2 is required"
  | .wrongCall => "wrong number of arguments"
  | .repeatedField => "got multiple values for a keyword argument"
  | .repeatedFieldOnFailure => "got multiple values for a keyword argument"
  | .unknownField => "unknown field"
  | .wrongValue => "wrong value"
  | .notUtf8 => "invalid UTF-8"
  | .notEncodable position [code] =>
    let digits := String.ofList (Nat.toDigits 16 code)
    s!"'utf-8' codec can't encode character '\\u{digits}' in position {position}: "
      ++ "surrogates not allowed"
  | .notEncodable position codes =>
    s!"'utf-8' codec can't encode characters in position {position}-{position + codes.length - 1}: "
      ++ "surrogates not allowed"
  | .config .unreadable => "Failed to read config file"
  | .config .unparsable => "Failed to parse YAML"
  | .config (.invalid _) => "Config validation failed"
  | .outside _ text => text

/-- What is shown of a failure: its code, if it has one, and its wording. -/
def message (failure : Failure) : String :=
  match failure.code? with
  | some code => s!"{code}: {failure.text}"
  | none => failure.text

end Failure

end FeatureGates
