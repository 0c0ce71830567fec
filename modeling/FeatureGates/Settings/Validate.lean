import FeatureGates.Settings.Basic

/-!
# Validating settings

Settings are read off a record of two sections. What is missing has its
default, what is unknown is passed over, and what has the wrong form is a
fault, named by section and field; `Settings.ofValue` reports all faults.

A field takes more than its own kind: a truth value also the numbers zero
and one and some words in any case, an integer also a truth value, an
integral number or a numeral. A text is taken from nothing else.
-/

namespace FeatureGates

namespace Settings

/-! ## Reading single values -/

def falseWords : List String := ["0", "off", "f", "false", "n", "no"]

def trueWords : List String := ["1", "on", "t", "true", "y", "yes"]

/-- The text with its ASCII letters in lower case. -/
def asciiLower (s : String) : String := String.ofList (s.toList.map Char.toLower)

def readFlag? : Value → Option Bool
  | .bool b => some b
  | .number n => if n.eq (.int 0) then some false else if n.eq (.int 1) then some true else none
  | .text s =>
    if falseWords.contains (asciiLower s) then some false
    else if trueWords.contains (asciiLower s) then some true
    else none
  | _ => none

/-- Blanks that may surround a numeral. -/
def surroundsNumeral (c : Char) : Bool := Text.isBlank c && !(0x1C ≤ c.toNat && c.toNat < 0x20)

/-- The digits of a numeral without its fraction, which may hold nothing but zeros. -/
def withoutFraction? (cs : List Char) : Option (List Char) :=
  let whole := cs.takeWhile (· ≠ '.')
  if (cs.drop (whole.length + 1)).all (· = '0') then some whole else none

/-- The integer of an ASCII numeral: a sign, digits with single underscores
between them, and perhaps a fraction of zeros. -/
def readNumeral? (s : String) : Option Int := do
  let cs := Text.trim surroundsNumeral s.toList
  if Text.digitLimit < cs.length then none
  let (negative, unsigned) := Text.signed cs
  let whole ← withoutFraction? unsigned
  if whole.isEmpty || whole.head? = some '_' || !Text.underscoresSeparate whole then none
  let digits ← (whole.filter (· ≠ '_')).mapM (Text.radixDigit? 10)
  let value : Int := Text.valueOfDigits 10 digits
  return if negative then -value else value

/-- The integer that a floating-point number is, within the bounds of machine integers. -/
def readIntegral? (x : Binary64) : Option Int :=
  if x.isIntegral then
    (x.floor?).filter fun n => -0x8000000000000000 < n && n < 0x8000000000000000
  else none

def readInt? : Value → Option Int
  | .bool b => some (if b then 1 else 0)
  | .int n => some n
  | .float x => readIntegral? x
  | .text s => readNumeral? s
  | _ => none

def readText? : Value → Option String
  | .text s => some s
  | _ => none

def readStrictness? : Value → Option Strictness
  | .text "raise" => some .refuse
  | .text "warn" => some .warn
  | .text "noop" => some .ignore
  | value => (readFlag? value).map .flag

def readFormat? : Value → Option LogFormat
  | .text "json" => some .json
  | .text "text" => some .text
  | _ => none

/-- A limit on actors: none, or an integer from one on. -/
def readLimit? : Value → Option { limit : Option Int // ∀ n ∈ limit, 1 ≤ n }
  | .null => some ⟨none, StackSettings.one_le_of_none⟩
  | value =>
    match readInt? value with
    | some n => if h : 1 ≤ n then some ⟨some n, fun _ mem => Option.some.inj mem ▸ h⟩ else none
    | none => none

/-! ## Reading sections -/

/-- What was read, or the paths of the faults in it. -/
abbrev Validated := Except (List String)

def faults {α : Type} : Validated α → List String
  | .ok _ => []
  | .error paths => paths

/-- The field of a section, or its default. -/
def field {α : Type} (fields : Entries) (path name : String) (read? : Value → Option α)
    (default : α) : Validated α :=
  match fields.get? name with
  | none => .ok default
  | some value =>
    match read? value with
    | some result => .ok result
    | none => .error [path ++ "." ++ name]

def readStack (entries : Entries) : Validated StackSettings :=
  let limit := field entries "flipper" "actor_limit" readLimit?
    ⟨some Adapter.defaultActorLimit, by decide⟩
  let instrument := field entries "flipper" "instrument" readFlag? false
  let memoize := field entries "flipper" "memoize" readFlag? false
  let readOnly := field entries "flipper" "read_only" readFlag? false
  let strict := field entries "flipper" "strict" readStrictness? (.flag false)
  match limit, instrument, memoize, readOnly, strict with
  | .ok limit, .ok instrument, .ok memoize, .ok readOnly, .ok strict =>
    .ok ⟨strict, readOnly, limit.1, memoize, instrument, limit.2⟩
  | _, _, _, _, _ =>
    .error (faults limit ++ faults instrument ++ faults memoize ++ faults readOnly
      ++ faults strict)

def readLog (entries : Entries) : Validated LogSettings :=
  let format := field entries "log" "format" readFormat? .json
  let level := field entries "log" "level" readText? "INFO"
  match format, level with
  | .ok format, .ok level => .ok ⟨level, format⟩
  | _, _ => .error (faults format ++ faults level)

/-- A section of the settings; one that is missing is empty. -/
def readSection {α : Type} (entries : Entries) (name : String)
    (read : Entries → Validated α) : Validated α :=
  match entries.get? name with
  | none => read []
  | some (.record fields) => read fields
  | some _ => .error [name]

def ofEntries (entries : Entries) : Validated Settings :=
  let stack := readSection entries "flipper" readStack
  let log := readSection entries "log" readLog
  match stack, log with
  | .ok stack, .ok log => .ok ⟨stack, log⟩
  | _, _ => .error (faults stack ++ faults log)

/-- The settings that a record holds. -/
def ofValue (value : Value) : Except Failure Settings :=
  let validated := match value with
    | .record entries => ofEntries entries
    | _ => .error [""]
  match validated with
  | .ok settings => .ok settings
  | .error paths => .error (.config (.invalid paths))

end Settings

end FeatureGates
