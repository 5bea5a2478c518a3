import WidgetPipeline.Yaml.Token.Property

/-!
The tokens of a stream. Block collections have no brackets: the column of a line opens and closes
them. A mapping is known by the colon behind its first key only, so the start of every node that may
be a key is remembered, and the tokens of the mapping and the key are inserted there once the colon
is found. Such a key stands on one line and takes at most 1024 bytes.
-/

namespace WidgetPipeline.Yaml

/-- A node that may turn out to be a key. -/
structure PossibleKey where
  /-- The position of its first token. -/
  position : Nat
  /-- No other node than a key can stand here. -/
  required : Bool
  index : Nat
  line : Nat
  column : Nat

structure TokenState where
  place : Place
  tokens : Array Token := #[]
  /-- The column of the innermost block collection, or -1 outside of all. -/
  indent : Int := -1
  /-- The columns of the collections around it, innermost first. -/
  outerIndents : List Int := []
  /-- The possible key at each level of flow collections, innermost first. -/
  keys : List (Option PossibleKey) := [none]
  /-- A node that starts here may be a key. -/
  keyAllowed : Bool := true

namespace TokenState

/-- Whether the place is within a flow collection. -/
def inFlow (state : TokenState) : Bool := state.keys.length > 1

def push (state : TokenState) (token : Token) : TokenState :=
  { state with tokens := state.tokens.push token }

/-- Appends a token and moves to the place behind it. -/
def pushAt (state : TokenState) (token : Token) (place : Place) : TokenState :=
  { state with tokens := state.tokens.push token, place }

def insertToken (state : TokenState) (position : Nat) (token : Token) : TokenState :=
  { state with tokens := state.tokens.insertIdxIfInBounds position token }

/-- Closes the block collections that start right of a column. -/
def closeBlocks (column : Int) (state : TokenState) : TokenState :=
  if state.inFlow then state else go state.outerIndents state
where
  /-- Closes one collection for each outer indentation, as long as the innermost is too wide. -/
  go : List Int → TokenState → TokenState
    | [], state => state
    | outer :: rest, state =>
      if column < state.indent then
        go rest { state.push .blockEnd with indent := outer, outerIndents := rest }
      else state

/-- Opens a block collection at a column, unless one is open there. Its token is inserted at a
position, or appended. -/
def openBlock (state : TokenState) (column : Nat) (position : Option Nat) (token : Token) :
    TokenState :=
  if state.inFlow || (column : Int) ≤ state.indent then state
  else
    let state :=
      { state with indent := column, outerIndents := state.indent :: state.outerIndents }
    match position with
    | some position => state.insertToken position token
    | none => state.push token

/-- Forgets the possible key of the current level. A key that is required cannot be forgotten. -/
def dropKey (state : TokenState) : Option TokenState :=
  match state.keys with
  | some key :: outer => if key.required then none else some { state with keys := none :: outer }
  | _ => some state

/-- Remembers that a node starts here, if it may be a key. -/
def markKey (state : TokenState) : Option TokenState :=
  if !state.keyAllowed then some state
  else do
    let state ← state.dropKey
    let key : PossibleKey :=
      { position := state.tokens.size
        required := !state.inFlow && state.indent = state.place.column
        index := state.place.index
        line := state.place.line
        column := state.place.column }
    return { state with keys := some key :: state.keys.tail }

/-- Whether a key that started there can no longer end here. -/
def outdated (state : TokenState) (key : PossibleKey) : Bool :=
  key.line < state.place.line || key.index + 1024 < state.place.index

/-- Forgets the possible keys that can no longer be keys. None of them may be required. -/
def dropOutdatedKeys (state : TokenState) : Option TokenState :=
  if state.keys.any fun
      | some key => state.outdated key && key.required
      | none => false then none
  else
    some { state with keys := state.keys.map fun key => key.filter (!state.outdated ·) }

/-- The state behind the blanks, comments and line breaks in front of the next token. `fuel` bounds
the number of characters. -/
def skipToToken : Nat → TokenState → TokenState
  | 0, state => state
  | fuel + 1, state =>
    let place := state.place
    match place.rest with
    | [] => state
    | c :: _ =>
      if c = '\ufeff' && place.column = 0 then
        skipToTokenInLine fuel { state with place := place.skip }
      else skipToTokenInLine fuel state
where
  /-- Goes on within a line, where no byte order mark is passed over. -/
  skipToTokenInLine : Nat → TokenState → TokenState
    | 0, state => state
    | fuel + 1, state =>
      let tabs := state.inFlow || !state.keyAllowed
      let place := state.place.skipWhile fun c => c = ' ' || (tabs && c = '\t')
      let place :=
        match place.rest with
        | '#' :: _ => place.skipWhile (!isBreak ·)
        | _ => place
      match place.rest with
      | c :: _ =>
        if isBreak c then
          let place := place.skipBreak
          let place :=
            if place.rest.head? = some '\ufeff' then place.skip else place
          skipToTokenInLine fuel
            { state with place, keyAllowed := state.keyAllowed || !state.inFlow }
        else { state with place }
      | [] => { state with place }

/-- Takes a token that closes all block collections and stands at the margin. -/
def takeMarginToken (read : Place → Option (Token × Place)) (state : TokenState) :
    Option TokenState := do
  let state ← (state.closeBlocks (-1)).dropKey
  let (token, place) ← read state.place
  return { state.pushAt token place with keyAllowed := false }

def takeFlowStart (token : Token) (state : TokenState) : Option TokenState := do
  let state ← state.markKey
  return { state.pushAt token state.place.skip with keys := none :: state.keys, keyAllowed := true }

def takeFlowEnd (token : Token) (state : TokenState) : Option TokenState := do
  let state ← state.dropKey
  let keys := if state.inFlow then state.keys.tail else state.keys
  return { state.pushAt token state.place.skip with keys, keyAllowed := false }

def takeFlowEntry (state : TokenState) : Option TokenState := do
  let state ← state.dropKey
  return { state.pushAt .flowEntry state.place.skip with keyAllowed := true }

/-- Takes the dash in front of an item of a block sequence. -/
def takeBlockEntry (state : TokenState) : Option TokenState := do
  if !state.inFlow && !state.keyAllowed then none
  else
    let state ← (state.openBlock state.place.column none .blockSequenceStart).dropKey
    return { state.pushAt .blockEntry state.place.skip with keyAllowed := true }

/-- Takes the question mark in front of a key. -/
def takeKey (state : TokenState) : Option TokenState := do
  if !state.inFlow && !state.keyAllowed then none
  else
    let state ← (state.openBlock state.place.column none .blockMappingStart).dropKey
    return { state.pushAt .key state.place.skip with keyAllowed := !state.inFlow }

def takeValue (state : TokenState) : Option TokenState :=
  match state.keys with
  | some key :: outer =>
    let state := state.insertToken key.position .key
    let state := state.openBlock key.column (some key.position) .blockMappingStart
    some { state.pushAt .value state.place.skip with keys := none :: outer, keyAllowed := false }
  | _ =>
    if !state.inFlow && !state.keyAllowed then none
    else
      let state := state.openBlock state.place.column none .blockMappingStart
      some { state.pushAt .value state.place.skip with keyAllowed := !state.inFlow }

def takeNodeToken (read : Place → Option (Token × Place)) (state : TokenState) :
    Option TokenState := do
  let state ← state.markKey
  let (token, place) ← read state.place
  return { state.pushAt token place with keyAllowed := false }

def takeBlockScalar (literal : Bool) (state : TokenState) : Option TokenState := do
  let state ← state.dropKey
  let (text, place) ← readBlockScalar literal state.indent state.place.skip
  return { state.pushAt (.scalar text false) place with keyAllowed := true }

def takeQuoted (read : Nat → Gathered → Place → Option (List Char × Place)) :
    TokenState → Option TokenState :=
  takeNodeToken fun place => do
    let (text, place) ← read (place.rest.length + 1) {} place.skip
    return (.scalar text false, place)

/-- Takes a plain scalar. Behind a line break a key may follow it. -/
def takePlain (state : TokenState) : Option TokenState := do
  let state ← state.markKey
  let context : PlainContext := { inFlow := state.inFlow, indent := state.indent + 1 }
  let (text, broken, place) ← readPlain context (state.place.rest.length + 1) false {} state.place
  return { state.pushAt (.scalar text true) place with keyAllowed := broken }

/-- Whether a plain scalar may start with these characters. -/
def startsPlain (inFlow : Bool) (c : Char) (rest : List Char) : Bool :=
  !"-?:,[]\x7b\x7d#&*!|>'\"%@\x60".toList.contains c && !isBlank c && !isBreak c ||
    (c = '-' && !(rest.head?.map isBlank).getD false) ||
    (!inFlow && (c = '?' || c = ':') && !atBlankOrEnd rest)

def takeToken (state : TokenState) (c : Char) (rest : List Char) : Option TokenState :=
  let atMargin := state.place.column = 0
  if atMargin && c = '%' then state.takeMarginToken fun place => readDirective place.skip
  else if atMargin && atDocumentMark (c :: rest) then
    let token := if c = '-' then Token.documentStart else .documentEnd
    state.takeMarginToken fun place => some (token, place.skip 3)
  else if c = '[' then state.takeFlowStart .flowSequenceStart
  else if c = '{' then state.takeFlowStart .flowMappingStart
  else if c = ']' then state.takeFlowEnd .flowSequenceEnd
  else if c = '}' then state.takeFlowEnd .flowMappingEnd
  else if c = ',' then state.takeFlowEntry
  else if c = '-' && atBlankOrEnd rest then state.takeBlockEntry
  else if c = '?' && (state.inFlow || atBlankOrEnd rest) then state.takeKey
  else if c = ':' && (state.inFlow || atBlankOrEnd rest) then state.takeValue
  else if c = '*' then
    state.takeNodeToken fun place => do
      let (name, place) ← readAnchorName place.skip
      return (.alias name, place)
  else if c = '&' then
    state.takeNodeToken fun place => do
      let (name, place) ← readAnchorName place.skip
      return (.anchor name, place)
  else if c = '!' then state.takeNodeToken fun place => readTag state.inFlow place.skip
  else if c = '|' && !state.inFlow then state.takeBlockScalar true
  else if c = '>' && !state.inFlow then state.takeBlockScalar false
  else if c = '\'' then state.takeQuoted readSingleQuoted
  else if c = '"' then state.takeQuoted readDoubleQuoted
  else if startsPlain state.inFlow c rest then state.takePlain
  else none

/-- The state at the end of the stream, where every block collection is closed. -/
def takeEnd (state : TokenState) : Option TokenState := (state.closeBlocks (-1)).dropKey

/-- Takes all tokens up to the end of the stream. `fuel` bounds their number. -/
def takeTokens : Nat → TokenState → Option TokenState
  | 0, _ => none
  | fuel + 1, state => do
    let state ← (state.skipToToken (2 * state.place.rest.length + 2)).dropOutdatedKeys
    let state := state.closeBlocks state.place.column
    match state.place.rest with
    | [] => state.takeEnd
    | c :: rest => takeTokens fuel (← state.takeToken c rest)

end TokenState

/-- The tokens of a stream, or none if its characters do not form tokens. -/
def Token.ofStream? (cs : List Char) : Option (List Token) :=
  if cs.all isPrintable then
    (TokenState.takeTokens (cs.length + 2) { place := { rest := cs } }).map (·.tokens.toList)
  else none

end WidgetPipeline.Yaml
