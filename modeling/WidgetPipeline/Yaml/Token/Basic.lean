import WidgetPipeline.Text.Pieces

/-!
Tokens of a YAML stream, the characters that part them, and a place in a stream. A place knows its
column, which carries the structure of block collections, and the number of bytes before it.
-/

namespace WidgetPipeline.Yaml

/-- A token. The end of the stream is the end of the list of tokens. -/
inductive Token where
  | version (major minor : Nat)
  | tagHandle (handle : List Char) (expansion : List UInt8)
  | documentStart
  | documentEnd
  | blockSequenceStart
  | blockMappingStart
  | blockEnd
  | flowSequenceStart
  | flowSequenceEnd
  | flowMappingStart
  | flowMappingEnd
  /-- The dash in front of an item of a block sequence. -/
  | blockEntry
  | flowEntry
  | key
  | value
  | alias (name : List Char)
  | anchor (name : List Char)
  | tag (handle : List Char) (suffix : List UInt8)
  /-- A scalar, and whether it was written without quotes and indicators. -/
  | scalar (text : List Char) (plain : Bool)
deriving DecidableEq, Repr

def isPrintable (c : Char) : Bool :=
  c = '\t' || c = '\n' || c = '\r' || (0x20 ≤ c.toNat && c.toNat ≤ 0x7E) || c.toNat = 0x85 ||
    (0xA0 ≤ c.toNat && c.toNat ≤ 0xFFFD) || 0x10000 ≤ c.toNat

def isBreak (c : Char) : Bool :=
  c = '\n' || c = '\r' || c = '\u0085' || c = '\u2028' || c = '\u2029'

def isBlank (c : Char) : Bool := c = ' ' || c = '\t'

/-- Characters of names: of anchors, directives and tag handles. -/
def isNameChar (c : Char) : Bool := c.isAlphanum || c = '_' || c = '-'

/-- Whether the text ends here, or its line does, or a blank follows. -/
def atBlankOrEnd : List Char → Bool
  | [] => true
  | c :: _ => isBlank c || isBreak c

def atBreakOrEnd : List Char → Bool
  | [] => true
  | c :: _ => isBreak c

/-- Whether the text starts with the mark of a document's start or end, which stands alone on its
line or in front of a blank. -/
def atDocumentMark : List Char → Bool
  | '-' :: '-' :: '-' :: rest => atBlankOrEnd rest
  | '.' :: '.' :: '.' :: rest => atBlankOrEnd rest
  | _ => false

/-- A place in a stream, with the text that follows. -/
structure Place where
  rest : List Char
  index : Nat := 0
  line : Nat := 0
  column : Nat := 0
deriving Repr

namespace Place

/-- The place behind the next characters, none of which ends the line. -/
def skip (place : Place) (count : Nat := 1) : Place :=
  { place with
    rest := place.rest.drop count
    index := place.index + Text.byteLength (place.rest.take count)
    column := place.column + count }

/-- The place behind all characters up to one that fails the test; none of them ends the line. -/
def skipWhile (place : Place) (test : Char → Bool) : Place :=
  place.skip (place.rest.takeWhile test).length

/-- The place behind the line break that stands here, and the break as it counts in scalars. -/
def takeBreak (place : Place) : List Char × Place :=
  let next (text : List Char) (rest : List Char) (size : Nat) : List Char × Place :=
    (text, { rest, index := place.index + size, line := place.line + 1, column := 0 })
  match place.rest with
  | '\r' :: '\n' :: rest => next ['\n'] rest 2
  | c :: rest =>
    if c = '\u2028' || c = '\u2029' then next [c] rest c.utf8Size
    else if isBreak c then next ['\n'] rest c.utf8Size
    else ([], place)
  | [] => ([], place)

def skipBreak (place : Place) : Place := place.takeBreak.2

end Place

end WidgetPipeline.Yaml
