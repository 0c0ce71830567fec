import FeatureGates.Yaml.Quoted

/-!
# Tokens of YAML

The tokens of block and flow notation. Indentation becomes tokens that open
and close blocks. Whether a scalar or a collection is a key shows only when
the colon comes, on the same line; the tokens that say so are then put in
front of it (`Scanner.colon`). So the scanner remembers, for every depth of
flow notation, what may yet turn out to be a key (`Candidate`).

Anchors, aliases, tags, directives and block scalars are not read.
-/

namespace FeatureGates.Yaml

inductive Token where
  | blockSequence
  | blockMapping
  | blockEnd
  | entry
  | key
  | value
  | openSequence
  | closeSequence
  | openMapping
  | closeMapping
  | comma
  | scalar (text : String) (isPlain : Bool)
  | documentStart
  | documentEnd
deriving DecidableEq

/-- Where something stands that may be a key: before which token, and in the text. -/
structure Candidate where
  token : Nat
  index : Nat
  line : Nat
  column : Nat
  /-- The indentation leaves it nothing else to be. -/
  required : Bool

structure Scanner where
  rest : List Char
  index : Nat
  line : Nat
  column : Nat
  tokens : List Token
  /-- The columns of the open blocks, innermost first. -/
  blocks : List Nat
  /-- How many flow collections are open. -/
  depth : Nat
  keyAllowed : Bool
  candidates : List (Nat × Candidate)

namespace Scanner

def start (cs : List Char) : Scanner := ⟨cs, 0, 0, 0, [], [], 0, true, []⟩

def inFlow (s : Scanner) : Bool := s.depth ≠ 0

/-! ## Moving on -/

/-- Goes over one character. -/
def pass (s : Scanner) (c : Char) (rest : List Char) : Scanner :=
  if isBreak c then { s with rest, index := s.index + 1, line := s.line + 1, column := 0 }
  else if c = '\uFEFF' then { s with rest, index := s.index + 1 }
  else { s with rest, index := s.index + 1, column := s.column + 1 }

def advance : Nat → Scanner → Scanner
  | 0, s => s
  | n + 1, s =>
    match s.rest with
    | [] => s
    | c :: rest => advance n (s.pass c rest)

/-- Goes on to where a later part of the text begins. -/
def advanceTo (s : Scanner) (rest : List Char) : Scanner :=
  s.advance (s.rest.length - rest.length)

/-- Goes over spaces, comments and line ends; after a line end a key may come. -/
def skipBlanks (comment : Bool) : List Char → Scanner → Scanner
  | [], s => s
  | c :: rest, s =>
    if isBreak c then
      skipBlanks false rest { s.pass c rest with keyAllowed := s.keyAllowed || !s.inFlow }
    else if comment || c = ' ' || c = '#' || (c = '\uFEFF' && s.index = 0) then
      skipBlanks (comment || c = '#') rest (s.pass c rest)
    else s

def put (s : Scanner) (token : Token) : Scanner := { s with tokens := s.tokens ++ [token] }

/-! ## Blocks -/

/-- The column is further in than the innermost open block. -/
def isDeeper (s : Scanner) (column : Nat) : Bool :=
  match s.blocks with
  | [] => true
  | c :: _ => c < column

/-- The column is that of the innermost open block. -/
def isAtBlock (s : Scanner) (column : Nat) : Bool := s.blocks.head? = some column

/-- Closes the blocks that some test of their columns tells to. -/
def closeBlocks (closes : Nat → Bool) (s : Scanner) : Scanner :=
  let closed := s.blocks.takeWhile closes
  { s with
    blocks := s.blocks.drop closed.length
    tokens := s.tokens ++ closed.map fun _ => .blockEnd }

/-- In block notation, closes the blocks that are further in than a column. -/
def dedent (s : Scanner) (column : Nat) : Scanner :=
  if s.inFlow then s else s.closeBlocks (column < ·)

/-- Opens a block at this column if it is further in than the others. -/
def indent (s : Scanner) (token : Token) : Scanner :=
  if !s.inFlow && s.isDeeper s.column then
    { s.put token with blocks := s.column :: s.blocks }
  else s

/-! ## Keys -/

/-- Gives up the candidate at this depth; not if it had to be a key. -/
def dropCandidate (s : Scanner) : Option Scanner :=
  match s.candidates.lookup s.depth with
  | some candidate =>
    if candidate.required then none
    else some { s with candidates := s.candidates.filter (·.1 ≠ s.depth) }
  | none => some s

/-- Notes that what comes next may be a key. -/
def noteCandidate (s : Scanner) : Option Scanner :=
  if s.keyAllowed then do
    let s ← s.dropCandidate
    let required := !s.inFlow && s.isAtBlock s.column
    let candidate := ⟨s.tokens.length, s.index, s.line, s.column, required⟩
    return { s with candidates := (s.depth, candidate) :: s.candidates }
  else some s

/-- Gives up candidates on earlier lines and those that are too far back. -/
def dropStale (s : Scanner) : Option Scanner :=
  let isStale (c : Candidate) : Bool := c.line ≠ s.line || 1024 < s.index - c.index
  if s.candidates.any fun c => isStale c.2 && c.2.required then none
  else some { s with candidates := s.candidates.filter fun c => !isStale c.2 }

/-- Puts tokens in front of a candidate, now known to be a key. -/
def insertKey (s : Scanner) (candidate : Candidate) : Scanner :=
  let opens := !s.inFlow && s.isDeeper candidate.column
  { s with
    tokens := s.tokens.take candidate.token
      ++ (if opens then [.blockMapping, .key] else [.key]) ++ s.tokens.drop candidate.token
    blocks := if opens then candidate.column :: s.blocks else s.blocks }

/-! ## Fetching tokens -/

/-- A token of the given length that is an indicator. -/
def indicator (s : Scanner) (token : Token) (length : Nat) : Scanner :=
  (s.put token).advance length

/-- A colon: the value of the candidate, or of an empty key. -/
def colon (s : Scanner) : Option Scanner :=
  match s.candidates.lookup s.depth with
  | some candidate =>
    let s := { s with candidates := s.candidates.filter (·.1 ≠ s.depth) }
    some ({ s.insertKey candidate with keyAllowed := false }.indicator .value 1)
  | none =>
    if !s.inFlow && !s.keyAllowed then none
    else do
      let s ← { s.indent .blockMapping with keyAllowed := !s.inFlow }.dropCandidate
      return s.indicator .value 1

/-- A question mark that announces a key. -/
def question (s : Scanner) : Option Scanner :=
  if !s.inFlow && !s.keyAllowed then none
  else do
    let s ← { s.indent .blockMapping with keyAllowed := !s.inFlow }.dropCandidate
    return s.indicator .key 1

/-- A dash before an entry of a block sequence. -/
def dash (s : Scanner) : Option Scanner :=
  if !s.inFlow && !s.keyAllowed then none
  else do
    let s ← { s.indent .blockSequence with keyAllowed := true }.dropCandidate
    return s.indicator .entry 1

def openFlow (s : Scanner) (token : Token) : Option Scanner := do
  let s ← s.noteCandidate
  return { s.indicator token 1 with depth := s.depth + 1, keyAllowed := true }

def closeFlow (s : Scanner) (token : Token) : Option Scanner :=
  if s.inFlow then do
    let s ← s.dropCandidate
    return { s.indicator token 1 with depth := s.depth - 1, keyAllowed := false }
  else none

def separator (s : Scanner) : Option Scanner := do
  let s ← s.dropCandidate
  return { s.indicator .comma 1 with keyAllowed := true }

/-- The marker of a document: all blocks end. -/
def marker (s : Scanner) (token : Token) : Option Scanner := do
  let s ← (s.closeBlocks fun _ => true).dropCandidate
  return { s.indicator token 3 with keyAllowed := false }

def quotedScalar (s : Scanner) (double : Bool) : Option Scanner := do
  let s ← s.noteCandidate
  let (text, rest) ← quoted double (s.rest.drop 1)
  return ({ s with keyAllowed := false }.advanceTo rest).put (.scalar (String.ofList text) false)

/-! ## Plain scalars -/

/-- A colon that ends a plain scalar. -/
def endsPlain (flow : Bool) : List Char → Bool
  | [] => true
  | c :: _ => isGap c || (flow && [',', '[', ']', '\x7b', '\x7d'].contains c)

/-- The longest run of characters of one word. -/
def word (flow : Bool) : List Char → List Char
  | [] => []
  | c :: rest =>
    if isGap c || (c = ':' && endsPlain flow rest)
        || (flow && [',', '?', '[', ']', '\x7b', '\x7d'].contains c) then []
    else c :: word flow rest

/-- Goes over the empty lines and the indentation after a line end; the
breaks, or none before the marker of a document. -/
def plainBreaks : List Char → Scanner → Option (List Char) × Scanner
  | [], s => (some [], s)
  | c :: rest, s =>
    if c = ' ' then plainBreaks rest (s.pass c rest)
    else if isBreak c then
      if atMarker rest then (none, s.pass c rest)
      else
        let (breaks, s) := plainBreaks rest (s.pass c rest)
        (breaks.map (readBreak c :: ·), s)
    else (some [], s)

/-- The gap after a word: what it stands for within the scalar, nothing if the scalar is over. -/
def plainGap (s : Scanner) : List Char × Scanner :=
  let blanks := s.rest.takeWhile (· = ' ')
  let s := s.advance blanks.length
  match s.rest with
  | [] => (blanks, s)
  | c :: rest =>
    if isBreak c then
      let s := { s.pass c rest with keyAllowed := true }
      if atMarker rest then ([], s)
      else
        match plainBreaks rest s with
        | (some breaks, s) => (foldBreaks c breaks, s)
        | (none, s) => ([], s)
    else (blanks, s)

/-- The words of a plain scalar and the gaps between them, in at most `fuel` steps. -/
def plainUpTo : Nat → List Char → Scanner → List Char × Scanner
  | 0, _, s => ([], s)
  | fuel + 1, gap, s =>
    let text := word s.inFlow s.rest
    if text.isEmpty || s.rest.head? = some '#' then ([], s)
    else
      let (next, after) := plainGap { s.advance text.length with keyAllowed := false }
      let column := match s.blocks with
        | [] => 0
        | c :: _ => c + 1
      if next.isEmpty || after.rest.head? = some '#' || (!s.inFlow && after.column < column) then
        (gap ++ text, after)
      else
        let (more, after) := plainUpTo fuel next after
        (gap ++ text ++ more, after)

def plainScalar (s : Scanner) : Option Scanner := do
  let s ← s.noteCandidate
  let (text, s) := plainUpTo s.rest.length [] { s with keyAllowed := false }
  return s.put (.scalar (String.ofList text) true)

/-- Whether a plain scalar may begin here. -/
def beginsPlain (flow : Bool) (c : Char) (rest : List Char) : Bool :=
  !("-?:,[]\x7b\x7d#&*!|>'\"%@".toList.contains c || c = Char.ofNat 96 || isGap c)
    || (!atGap rest && (c = '-' || (!flow && (c = '?' || c = ':'))))

/-! ## The whole text -/

/-- Fetches the next token and whatever goes before it. -/
def fetch (c : Char) (rest : List Char) (s : Scanner) : Option Scanner :=
  if s.column = 0 && atMarker (c :: rest) then
    s.marker (if c = '-' then .documentStart else .documentEnd)
  else if c = '%' && s.column = 0 then none
  else if c = '[' then s.openFlow .openSequence
  else if c = '\x7b' then s.openFlow .openMapping
  else if c = ']' then s.closeFlow .closeSequence
  else if c = '\x7d' then s.closeFlow .closeMapping
  else if c = ',' then s.separator
  else if c = '-' && atGap rest then s.dash
  else if c = '?' && (s.inFlow || atGap rest) then s.question
  else if c = ':' && (s.inFlow || atGap rest) then s.colon
  else if c = '\'' then s.quotedScalar false
  else if c = '"' then s.quotedScalar true
  else if beginsPlain s.inFlow c rest then s.plainScalar
  else none

/-- The tokens of what is left, in at most `fuel` steps. -/
def finish : Nat → Scanner → Option (List Token)
  | 0, _ => none
  | fuel + 1, s => do
    let s ← (s.skipBlanks false s.rest).dropStale
    let s := s.dedent s.column
    match s.rest with
    | [] =>
      let s ← (s.closeBlocks fun _ => true).dropCandidate
      return s.tokens
    | c :: rest => finish fuel (← s.fetch c rest)

end Scanner

/-- The tokens of a text. -/
def tokens? (cs : List Char) : Option (List Token) :=
  if cs.all isAllowed then Scanner.finish (cs.length + 1) (.start cs) else none

end FeatureGates.Yaml
