import FeatureGates.Yaml.Token

/-!
# Trees of YAML

A document is a tree of scalars, sequences and mappings, read off its
tokens by recursive descent. A key without a value, or the other way
round, and an entry with nothing in it have the empty plain scalar there.

Every reader takes at most `fuel` steps in depth; `Tree.read?` gives more
than any list of tokens can use.
-/

namespace FeatureGates.Yaml

inductive Tree where
  | scalar (text : String) (isPlain : Bool)
  | sequence (items : List Tree)
  | mapping (entries : List (Tree × Tree))

namespace Tree

def nothing : Tree := .scalar "" true

/-- A reader's tree and the tokens after it. -/
abbrev Result := Option (Tree × List Token)

/-- The next token is one of some; so is the end, if the text may end here. -/
def isNext (tokens : List Token) (among : List Token) : Bool :=
  match tokens with
  | [] => false
  | token :: _ => among.contains token

/-- What a reader gives, or nothing before one of some tokens. -/
def orNothing (before : List Token) (reader : List Token → Result) (tokens : List Token) :
    Result :=
  if isNext tokens before then some (nothing, tokens) else reader tokens

/-- The value of a key, if a colon comes; it ends before one of some tokens. -/
def valueOf (before : List Token) (reader : List Token → Result) (tokens : List Token) :
    Result :=
  match tokens with
  | .value :: rest => orNothing before reader rest
  | _ => some (nothing, tokens)

mutual

/-- A tree in flow notation. -/
def flow : Nat → List Token → Result
  | 0, _ => none
  | fuel + 1, tokens =>
    match tokens with
    | .scalar text isPlain :: rest => some (.scalar text isPlain, rest)
    | .openSequence :: rest => flowItems fuel true [] rest
    | .openMapping :: rest => flowEntries fuel true [] rest
    | _ => none

/-- The items of a flow sequence; one may be a lone entry of a mapping. -/
def flowItems : Nat → Bool → List Tree → List Token → Result
  | 0, _, _, _ => none
  | fuel + 1, isFirst, items, tokens => do
    if let .closeSequence :: rest := tokens then return (.sequence items.reverse, rest)
    let tokens ← match isFirst, tokens with
      | true, tokens => some tokens
      | false, .comma :: rest => some rest
      | false, _ => none
    match tokens with
    | .closeSequence :: rest => return (.sequence items.reverse, rest)
    | .key :: rest =>
      let (key, rest) ← orNothing [.value, .comma, .closeSequence] (flow fuel) rest
      let (value, rest) ← valueOf [.comma, .closeSequence] (flow fuel) rest
      flowItems fuel false (.mapping [(key, value)] :: items) rest
    | _ =>
      let (item, rest) ← flow fuel tokens
      flowItems fuel false (item :: items) rest

/-- The entries of a flow mapping. -/
def flowEntries : Nat → Bool → List (Tree × Tree) → List Token → Result
  | 0, _, _, _ => none
  | fuel + 1, isFirst, entries, tokens => do
    if let .closeMapping :: rest := tokens then return (.mapping entries.reverse, rest)
    let tokens ← match isFirst, tokens with
      | true, tokens => some tokens
      | false, .comma :: rest => some rest
      | false, _ => none
    match tokens with
    | .closeMapping :: rest => return (.mapping entries.reverse, rest)
    | .key :: rest =>
      let (key, rest) ← orNothing [.value, .comma, .closeMapping] (flow fuel) rest
      let (value, rest) ← valueOf [.comma, .closeMapping] (flow fuel) rest
      flowEntries fuel false ((key, value) :: entries) rest
    | _ =>
      let (key, rest) ← flow fuel tokens
      flowEntries fuel false ((key, nothing) :: entries) rest

end

mutual

/-- A tree in block notation. In a mapping a sequence need not be indented. -/
def block : Nat → Bool → List Token → Result
  | 0, _, _ => none
  | fuel + 1, inMapping, tokens =>
    match inMapping, tokens with
    | true, .entry :: _ => looseItems fuel [] tokens
    | _, .blockSequence :: rest => blockItems fuel [] rest
    | _, .blockMapping :: rest => blockEntries fuel [] rest
    | _, _ => flow fuel tokens

/-- The items of an indented sequence. -/
def blockItems : Nat → List Tree → List Token → Result
  | 0, _, _ => none
  | fuel + 1, items, tokens =>
    match tokens with
    | .blockEnd :: rest => some (.sequence items.reverse, rest)
    | .entry :: rest => do
      let (item, rest) ← orNothing [.entry, .blockEnd] (block fuel false) rest
      blockItems fuel (item :: items) rest
    | _ => none

/-- The items of a sequence that is not indented. -/
def looseItems : Nat → List Tree → List Token → Result
  | 0, _, _ => none
  | fuel + 1, items, tokens =>
    match tokens with
    | .entry :: rest => do
      let (item, rest) ← orNothing [.entry, .key, .value, .blockEnd] (block fuel false) rest
      looseItems fuel (item :: items) rest
    | _ => some (.sequence items.reverse, tokens)

/-- The entries of a block mapping. -/
def blockEntries : Nat → List (Tree × Tree) → List Token → Result
  | 0, _, _ => none
  | fuel + 1, entries, tokens =>
    match tokens with
    | .blockEnd :: rest => some (.mapping entries.reverse, rest)
    | .key :: rest => do
      let (key, rest) ← orNothing [.key, .value, .blockEnd] (block fuel true) rest
      let (value, rest) ← valueOf [.key, .value, .blockEnd] (block fuel true) rest
      blockEntries fuel ((key, value) :: entries) rest
    | _ => none

end

/-- The tree of a document after its start; it may be empty. -/
def document (fuel : Nat) (tokens : List Token) : Result :=
  match tokens with
  | [] => some (nothing, [])
  | .documentStart :: rest =>
    if rest.isEmpty then some (nothing, [])
    else orNothing [.documentStart, .documentEnd] (block fuel false) rest
  | _ => block fuel false tokens

/-- The tree of the one document that the tokens make up. -/
def read? (tokens : List Token) : Option Tree := do
  let (tree, rest) ← document (4 * tokens.length + 4) tokens
  if (rest.dropWhile (· = .documentEnd)).isEmpty then return tree else none

end Tree

end FeatureGates.Yaml
