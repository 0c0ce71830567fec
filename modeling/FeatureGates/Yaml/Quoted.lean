import FeatureGates.Text.Numeral

/-!
# Text of YAML scalars

The characters that end a line or separate words, and the text between
quotes. Within quotes a line break between words is a space and each
further one stays a break; a document marker may not begin a line there.
-/

namespace FeatureGates.Yaml

/-! ## Characters -/

/-- The character ends a line. -/
def isBreak (c : Char) : Bool :=
  c = '\n' || c = '\r' || c = '\u0085' || c = '\u2028' || c = '\u2029'

/-- The character separates words. -/
def isGap (c : Char) : Bool := c = ' ' || c = '\t' || isBreak c

/-- What a line break is read as. -/
def readBreak (c : Char) : Char := if c = '\u2028' || c = '\u2029' then c else '\n'

/-- The text is over, or a word is. -/
def atGap : List Char → Bool
  | [] => true
  | c :: _ => isGap c

/-- Whether a document may hold the character. -/
def isAllowed (c : Char) : Bool :=
  let code := c.toNat
  c = '\t' || c = '\n' || c = '\r' || (32 ≤ code && code < 127) || code = 0x85
    || (0xA0 ≤ code && code < 0xFFFE) || 0x10000 ≤ code

/-- A line begins with the marker that starts a document or ends one. -/
def atMarker : List Char → Bool
  | '-' :: '-' :: '-' :: rest => atGap rest
  | '.' :: '.' :: '.' :: rest => atGap rest
  | _ => false

/-! ## Lines within a scalar -/

/-- What a line break and the breaks after it stand for. -/
def foldBreaks (first : Char) (others : List Char) : List Char :=
  if readBreak first = '\n' then (if others.isEmpty then [' '] else others)
  else readBreak first :: others

/-- The breaks of empty lines within quotes, and the text from the next word on. -/
def quotedBreaks : List Char → Option (List Char × List Char)
  | cs => if atMarker cs then none else skip cs
where
  /-- Goes over the blanks of a line that has begun. -/
  skip : List Char → Option (List Char × List Char)
    | [] => some ([], [])
    | c :: rest =>
      if c = ' ' || c = '\t' then skip rest
      else if isBreak c then
        if atMarker rest then none
        else (skip rest).map fun (breaks, rest) => (readBreak c :: breaks, rest)
      else some ([], c :: rest)

/-- The gap between two words within quotes: what it stands for and what follows. -/
def quotedGap (cs : List Char) : Option (List Char × List Char) :=
  let blanks := cs.takeWhile fun c => c = ' ' || c = '\t'
  match cs.drop blanks.length with
  | [] => none
  | c :: rest =>
    if isBreak c then
      (quotedBreaks rest).map fun (breaks, rest) => (foldBreaks c breaks, rest)
    else some (blanks, c :: rest)

/-! ## Quotes -/

/-- What a letter stands for after a backslash. -/
def escaped? : Char → Option Char
  | '0' => some '\x00'
  | 'a' => some '\x07'
  | 'b' => some '\x08'
  | 't' => some '\t'
  | '\t' => some '\t'
  | 'n' => some '\n'
  | 'v' => some '\x0b'
  | 'f' => some '\x0c'
  | 'r' => some '\r'
  | 'e' => some '\x1b'
  | ' ' => some ' '
  | '"' => some '"'
  | '\\' => some '\\'
  | '/' => some '/'
  | 'N' => some '\u0085'
  | '_' => some '\u00a0'
  | 'L' => some '\u2028'
  | 'P' => some '\u2029'
  | _ => none

/-- How many hexadecimal digits follow a letter after a backslash. -/
def codeWidth? : Char → Option Nat
  | 'x' => some 2
  | 'u' => some 4
  | 'U' => some 8
  | _ => none

/-- The character with a code in so many hexadecimal digits. -/
def ofCode? (width : Nat) (cs : List Char) : Option (Char × List Char) := do
  let digits ← (cs.take width).mapM (Text.radixDigit? 16)
  if digits.length < width then none
  else
    let code := Text.valueOfDigits 16 digits
    if h : code.isValidChar then some (Char.ofNatAux code h, cs.drop width) else none

/-- An escape after its backslash: what it stands for and what follows. -/
def escape (cs : List Char) : Option (List Char × List Char) :=
  match cs with
  | [] => none
  | c :: rest =>
    match escaped? c, codeWidth? c with
    | some plain, _ => some ([plain], rest)
    | none, some width => (ofCode? width rest).map fun (c, rest) => ([c], rest)
    | none, none => if isBreak c then quotedBreaks rest else none

/-- The text up to the closing quote, in at most `fuel` steps, and what follows it. -/
def quotedUpTo (double : Bool) : Nat → List Char → Option (List Char × List Char)
  | 0, _ => none
  | fuel + 1, cs => do
    let (piece, rest) ← match double, cs with
      | _, [] => none
      | false, '\'' :: '\'' :: rest => some (['\''], rest)
      | false, '\'' :: rest => return ([], rest)
      | true, '"' :: rest => return ([], rest)
      | true, '\\' :: rest => escape rest
      | _, c :: rest => if isGap c then quotedGap (c :: rest) else some ([c], rest)
    let (text, rest) ← quotedUpTo double fuel rest
    return (piece ++ text, rest)

/-- The text after an opening quote, and what follows the closing one. -/
def quoted (double : Bool) (cs : List Char) : Option (List Char × List Char) :=
  quotedUpTo double (cs.length + 1) cs

end FeatureGates.Yaml
