import WidgetPipeline.OrderedMap
import WidgetPipeline.Text.Utf8
import WidgetPipeline.Yaml.Node.Basic
import WidgetPipeline.Yaml.Token.Stream

/-!
The nodes of a stream. A stream holds one document at most; directives in front of it give the
handles of its tags. What is missing in a block or flow collection is an empty node.
-/

namespace WidgetPipeline.Yaml

/-- What is known between two tokens of a document. -/
structure NodeState where
  tokens : List Token
  handles : List (List Char × List UInt8)
  /-- The names of the anchors so far with their numbers. -/
  anchors : OrderedMap String Nat := ∅

abbrev NodeReader := StateT NodeState Option

inductive Position where
  /-- Within a flow collection, where no block collection can start. -/
  | flow
  /-- As an item of a block sequence or as the root. -/
  | blockItem
  /-- As a key or value of a block mapping. A sequence may start here without indentation. -/
  | blockField
deriving DecidableEq

namespace NodeReader

def peek : NodeReader (Option Token) := do return (← get).tokens.head?

def advance : NodeReader Unit := modify fun state => { state with tokens := state.tokens.tail }

def take (token : Token) : NodeReader Bool := do
  if (← peek) = some token then
    advance
    return true
  return false

def anchorNumber (name : List Char) : NodeReader Nat := do
  StateT.lift ((← get).anchors.get? (String.ofList name))

/-- Numbers an anchor by how many names there are. A name that is used again keeps its place among
them, so that the next new name gets the same number. -/
def nameAnchor (name : List Char) : NodeReader Nat := do
  let anchors := (← get).anchors
  let number := anchors.toList.length
  modify fun state => { state with anchors := anchors.insert (String.ofList name) number }
  return number

def expandTag (handle : List Char) (suffix : List UInt8) : NodeReader (List UInt8) := do
  if handle.isEmpty then return suffix
  let expansion ← StateT.lift ((← get).handles.lookup handle)
  return expansion ++ suffix

def readAnchor : NodeReader (Option (List Char)) := do
  if let some (.anchor name) ← peek then
    advance
    return some name
  return none

def readTag : NodeReader (Option (List Char × List UInt8)) := do
  if let some (.tag handle suffix) ← peek then
    advance
    return some (handle, suffix)
  return none

/-- Reads an anchor and a tag, in either order, each if there is one. -/
def readProperties : NodeReader Properties := do
  let (anchor, tag) ←
    match ← readAnchor with
    | some name => pure (some name, ← readTag)
    | none =>
      match ← readTag with
      | some tag => pure (← readAnchor, some tag)
      | none => pure (none, none)
  return {
    tag := ← tag.mapM fun (handle, suffix) => expandTag handle suffix
    anchor := ← anchor.mapM nameAnchor }

mutual

/-- Reads a node. `fuel` bounds the depth of the calls. -/
def readNode (position : Position) : Nat → NodeReader Node
  | 0 => failure
  | fuel + 1 => do
    if let some (.alias name) ← peek then
      advance
      return .alias (← anchorNumber name)
    let properties ← readProperties
    -- properties alone belong to an empty node
    let bare : NodeReader Node :=
      if properties = {} then failure else return .scalar properties "" true
    match position, ← peek with
    | .blockField, some .blockEntry => return .sequence properties (← readLooseItems fuel)
    | _, some (.scalar text plain) =>
      advance
      return .scalar properties (String.ofList text) plain
    | _, some .flowSequenceStart =>
      advance
      return .sequence properties (← readFlowItems true fuel)
    | _, some .flowMappingStart =>
      advance
      return .mapping properties (← readFlowFields true fuel)
    | .flow, _ => bare
    | _, some .blockSequenceStart =>
      advance
      return .sequence properties (← readBlockItems fuel)
    | _, some .blockMappingStart =>
      advance
      return .mapping properties (← readBlockFields fuel)
    | _, _ => bare

/-- Reads a node, which is empty in front of some tokens. -/
def readNodeUnless (stops : List Token) (position : Position) : Nat → NodeReader Node
  | 0 => failure
  | fuel + 1 => do
    match ← peek with
    | some token => if stops.contains token then return .empty else readNode position fuel
    | none => failure

def readBlockItems : Nat → NodeReader (List Node)
  | 0 => failure
  | fuel + 1 => do
    if ← take .blockEntry then
      let item ← readNodeUnless [.blockEntry, .blockEnd] .blockItem fuel
      return item :: (← readBlockItems fuel)
    if ← take .blockEnd then return []
    failure

/-- Reads the items of a sequence that shares its indentation with the mapping around it. -/
def readLooseItems : Nat → NodeReader (List Node)
  | 0 => failure
  | fuel + 1 => do
    if ← take .blockEntry then
      let item ← readNodeUnless [.blockEntry, .key, .value, .blockEnd] .blockItem fuel
      return item :: (← readLooseItems fuel)
    return []

def readBlockFields : Nat → NodeReader (List (Node × Node))
  | 0 => failure
  | fuel + 1 => do
    let stops := [Token.key, .value, .blockEnd]
    if ← take .key then
      let key ← readNodeUnless stops .blockField fuel
      let value ← if ← take .value then readNodeUnless stops .blockField fuel else pure .empty
      return (key, value) :: (← readBlockFields fuel)
    if ← take .blockEnd then return []
    failure

def readFlowItems (first : Bool) : Nat → NodeReader (List Node)
  | 0 => failure
  | fuel + 1 => do
    if ← take .flowSequenceEnd then return []
    if !first && !(← take .flowEntry) then failure
    if ← take .key then
      let entry ← readFlowPair fuel
      return .mapping {} [entry] :: (← readFlowItems false fuel)
    if ← take .flowSequenceEnd then return []
    let item ← readNode .flow fuel
    return item :: (← readFlowItems false fuel)

/-- Reads an item of a flow sequence that is a mapping of one entry. A token that stands in the
place of the key is lost. -/
def readFlowPair : Nat → NodeReader (Node × Node)
  | 0 => failure
  | fuel + 1 => do
    let key ←
      match ← peek with
      | some .value | some .flowEntry | some .flowSequenceEnd =>
        advance
        pure .empty
      | _ => readNode .flow fuel
    if ← take .value then
      return (key, ← readNodeUnless [.flowEntry, .flowSequenceEnd] .flow fuel)
    return (key, .empty)

def readFlowFields (first : Bool) : Nat → NodeReader (List (Node × Node))
  | 0 => failure
  | fuel + 1 => do
    if ← take .flowMappingEnd then return []
    if !first && !(← take .flowEntry) then failure
    if ← take .key then
      let key ← readNodeUnless [.value, .flowEntry, .flowMappingEnd] .flow fuel
      let value ←
        if ← take .value then readNodeUnless [.flowEntry, .flowMappingEnd] .flow fuel
        else pure .empty
      return (key, value) :: (← readFlowFields false fuel)
    if ← take .flowMappingEnd then return []
    let key ← readNode .flow fuel
    return (key, .empty) :: (← readFlowFields false fuel)

end

/-- Reads the directives in front of a document: a version at most once, and each handle once. -/
def readDirectives (hasVersion : Bool) (handles : List (List Char × List UInt8)) :
    List Token → Option (List (List Char × List UInt8) × List Token)
  | .version major minor :: tokens =>
    if hasVersion || major ≠ 1 || (minor ≠ 1 && minor ≠ 2) then none
    else readDirectives true handles tokens
  | .tagHandle handle expansion :: tokens =>
    if (handles.lookup handle).isSome then none
    else readDirectives hasVersion ((handle, expansion) :: handles) tokens
  | tokens => some (handles, tokens)

def defaultHandles : List (List Char × List UInt8) :=
  [("!".toList, Text.Utf8.encode "!"), ("!!".toList, Text.Utf8.encode "tag:yaml.org,2002:")]

def isFrame : Token → Bool
  | .version _ _ | .tagHandle _ _ | .documentStart | .documentEnd => true
  | _ => false

/-- Whether the token opens a document that is introduced by its mark. -/
def opensDocument : Token → Bool
  | .documentEnd => false
  | token => isFrame token

/-- Reads the root of a document and the end of the stream. -/
def readRoot (handles : List (List Char × List UInt8)) (tokens : List Token) : Option Node := do
  let state : NodeState := { tokens, handles := handles ++ defaultHandles }
  let (root, state) ← readNode .blockItem (3 * (tokens.length + 2)) |>.run state
  if state.tokens.all (· = .documentEnd) then some root else none

end NodeReader

/-- The root of the document in a list of tokens; an empty stream has none. It fails where the
tokens form anything else than one document. -/
def Node.ofTokens? (tokens : List Token) : Option (Option Node) :=
  match tokens with
  | [] => some none
  | first :: _ =>
    if !NodeReader.opensDocument first then (NodeReader.readRoot [] tokens).map some
    else
      match NodeReader.readDirectives false [] tokens with
      | some (handles, .documentStart :: content) =>
        -- what follows the mark may be nothing
        if content.all (· = .documentEnd) then some (some .empty)
        else (NodeReader.readRoot handles content).map some
      | _ => none

/-- The root of the document in a text; an empty text has none. -/
def Node.ofText? (text : String) : Option (Option Node) :=
  (Token.ofStream? text.toList).bind Node.ofTokens?

end WidgetPipeline.Yaml
