import WidgetPipeline.Json.Reader
import WidgetPipeline.Yaml.Token.Basic

/-!
The texts of scalars. Within a plain or quoted scalar a single line break is folded into a blank, and
of several the first is dropped; the blanks around a break go with it. A block scalar keeps its lines,
less their common indentation, and folds them only if it is asked to.
-/

namespace WidgetPipeline.Yaml

/-- The text of a scalar read so far, last character first, and the white space that is still to be
joined to it. -/
structure Gathered where
  text : List Char := []
  /-- Blanks behind the text, last first. -/
  blanks : List Char := []
  broken : Bool := false
  firstBreak : List Char := []
  moreBreaks : List Char := []

namespace Gathered

/-- Takes a blank. Blanks behind a break are indentation. -/
def addBlank (g : Gathered) (c : Char) : Gathered :=
  if g.broken then g else { g with blanks := c :: g.blanks }

def addBreak (g : Gathered) (text : List Char) : Gathered :=
  if g.broken then { g with moreBreaks := g.moreBreaks ++ text }
  else { g with blanks := [], broken := true, firstBreak := text }

/-- Takes a line break that a backslash hides. -/
def addHiddenBreak (g : Gathered) : Gathered := { g with broken := true }

def whiteSpace (g : Gathered) : List Char :=
  if !g.broken then g.blanks.reverse
  else if g.firstBreak = ['\n'] then if g.moreBreaks.isEmpty then [' '] else g.moreBreaks
  else g.firstBreak ++ g.moreBreaks

def flush (g : Gathered) : Gathered := { text := g.whiteSpace.reverse ++ g.text }

def addChar (g : Gathered) (c : Char) : Gathered :=
  let g := g.flush
  { g with text := c :: g.text }

end Gathered

/-- Where a plain scalar stands: in a flow collection, or in a block with an indentation. -/
structure PlainContext where
  inFlow : Bool
  /-- The least column of a line that continues the scalar. -/
  indent : Int

/-- Whether a colon or a flow indicator ends a plain scalar here. -/
def endsPlain (context : PlainContext) (c : Char) (rest : List Char) : Bool :=
  (c = ':' && atBlankOrEnd rest) ||
    (context.inFlow && (c = ',' || c = '[' || c = ']' || c = '{' || c = '}'))

/-- Whether a colon stands here that is no part of a plain scalar and ends none. -/
def misplacedColon (context : PlainContext) (c : Char) (rest : List Char) : Bool :=
  context.inFlow && c = ':' &&
    match rest with
    | d :: _ => d = ',' || d = '?' || d = '[' || d = ']' || d = '{' || d = '}'
    | [] => false

/-- Reads the rest of a plain scalar. `fuel` bounds the number of characters. The answer has the
scalar's text, whether a line break was passed behind it, and the place where the reading stopped. -/
def readPlain (context : PlainContext) (fuel : Nat) (afterBlank : Bool) (g : Gathered)
    (place : Place) : Option (List Char × Bool × Place) :=
  match fuel, place.rest with
  | 0, _ | _, [] => some (g.text.reverse, g.broken, place)
  | fuel + 1, c :: rest =>
    if isBlank c then
      if g.broken && (place.column : Int) < context.indent && c = '\t' then none
      else readPlain context fuel true (g.addBlank c) place.skip
    else if isBreak c then
      let (text, place) := place.takeBreak
      readPlain context fuel true (g.addBreak text) place
    else if afterBlank && ((!context.inFlow && (place.column : Int) < context.indent) ||
        (place.column = 0 && atDocumentMark place.rest) || c = '#') then
      some (g.text.reverse, g.broken, place)
    else if misplacedColon context c rest then none
    else if endsPlain context c rest then some (g.text.reverse, g.broken, place)
    else readPlain context fuel false (g.addChar c) place.skip

/-- Reads the rest of a scalar in single quotes; a quote in it is written twice. -/
def readSingleQuoted (fuel : Nat) (g : Gathered) (place : Place) : Option (List Char × Place) :=
  match fuel, place.rest with
  | 0, _ | _, [] => none
  | fuel + 1, c :: rest =>
    if place.column = 0 && atDocumentMark place.rest then none
    else if isBlank c then readSingleQuoted fuel (g.addBlank c) place.skip
    else if isBreak c then
      let (text, place) := place.takeBreak
      readSingleQuoted fuel (g.addBreak text) place
    else if c = '\'' then
      match rest with
      | '\'' :: _ => readSingleQuoted fuel (g.addChar '\'') (place.skip 2)
      | _ => some (g.flush.text.reverse, place.skip)
    else readSingleQuoted fuel (g.addChar c) place.skip

def escapedChar? : Char → Option Char
  | '0' => some '\x00'
  | 'a' => some '\x07'
  | 'b' => some '\x08'
  | 't' => some '\t'
  | '\t' => some '\t'
  | 'n' => some '\n'
  | 'v' => some '\x0b'
  | 'f' => some '\x0c'
  | 'r' => some '\r'
  | 'e' => some '\x1b'
  | ' ' => some ' '
  | '"' => some '"'
  | '/' => some '/'
  | '\\' => some '\\'
  | 'N' => some '\u0085'
  | '_' => some '\u00a0'
  | 'L' => some '\u2028'
  | 'P' => some '\u2029'
  | _ => none

/-- The number of hexadecimal digits behind a letter that introduces a character's number. -/
def escapeLength? : Char → Option Nat
  | 'x' => some 2
  | 'u' => some 4
  | 'U' => some 8
  | _ => none

def charOfHex? (digits : List Char) : Option Char := do
  let values ← digits.mapM Json.hexValue?
  Json.charOfUnit? (values.foldl (fun n value => 16 * n + value) 0)

def readDoubleQuoted (fuel : Nat) (g : Gathered) (place : Place) : Option (List Char × Place) :=
  match fuel, place.rest with
  | 0, _ | _, [] => none
  | fuel + 1, c :: rest =>
    if place.column = 0 && atDocumentMark place.rest then none
    else if isBlank c then readDoubleQuoted fuel (g.addBlank c) place.skip
    else if isBreak c then
      let (text, place) := place.takeBreak
      readDoubleQuoted fuel (g.addBreak text) place
    else if c = '"' then some (g.flush.text.reverse, place.skip)
    else if c = '\\' then
      match rest with
      | [] => none
      | e :: digits =>
        if isBreak e then readDoubleQuoted fuel g.flush.addHiddenBreak place.skip.skipBreak
        else
          match escapedChar? e, escapeLength? e with
          | some d, _ => readDoubleQuoted fuel (g.addChar d) (place.skip 2)
          | none, some length =>
            if digits.length < length then none
            else
              match charOfHex? (digits.take length) with
              | some d => readDoubleQuoted fuel (g.addChar d) (place.skip (2 + length))
              | none => none
          | none, none => none
    else readDoubleQuoted fuel (g.addChar c) place.skip

/-- What happens to the line breaks at the end of a block scalar. -/
inductive Chomping where
  | clip
  | strip
  | keep
deriving DecidableEq

/-- Reads the empty lines and the indentation in front of a line of a block scalar: the breaks, the
greatest column reached, and the place. Without an indentation every blank belongs to it. -/
def readBlockBreaks (indent : Option Nat) (fuel : Nat) (breaks : List Char) (widest : Nat)
    (place : Place) : Option (List Char × Nat × Place) :=
  let widest := max widest place.column
  let inIndent :=
    match indent with
    | none => true
    | some indent => place.column < indent
  match fuel, place.rest with
  | 0, _ | _, [] => some (breaks, widest, place)
  | fuel + 1, c :: _ =>
    if inIndent && c = ' ' then readBlockBreaks indent fuel breaks widest place.skip
    else if inIndent && c = '\t' then none
    else if isBreak c then
      let (text, place) := place.takeBreak
      readBlockBreaks indent fuel (breaks ++ text) widest place
    else some (breaks, widest, place)

structure BlockText where
  text : List Char := []
  lineBreak : List Char := []
  emptyLines : List Char := []
  /-- The last line starts with a blank, which keeps its breaks from being folded. -/
  startsBlank : Bool := false

/-- Reads the lines of a block scalar while they have its indentation. -/
def readBlockLines (literal : Bool) (indent : Nat) :
    Nat → BlockText → Place → Option (BlockText × Place)
  | 0, block, place => some (block, place)
  | fuel + 1, block, place =>
    if place.rest.isEmpty || place.column ≠ indent then some (block, place)
    else
      let startsBlank := (place.rest.head?.map isBlank).getD false
      let joint :=
        if !literal && block.lineBreak = ['\n'] && !block.startsBlank && !startsBlank then
          if block.emptyLines.isEmpty then [' '] else []
        else block.lineBreak
      let line := place.rest.takeWhile (!isBreak ·)
      let (lineBreak, behind) := (place.skip line.length).takeBreak
      match readBlockBreaks (some indent) (behind.rest.length + 1) [] 0 behind with
      | none => none
      | some (emptyLines, _, place) =>
        readBlockLines literal indent fuel
          { text := block.text ++ joint ++ block.emptyLines ++ line
            lineBreak, emptyLines, startsBlank }
          place

/-- Reads the indicators behind the one that opens a block scalar, in either order. -/
def readBlockHeader (place : Place) : Option (Chomping × Option Nat × Place) :=
  let chomping? (c : Char) : Option Chomping :=
    if c = '+' then some .keep else if c = '-' then some .strip else none
  match place.rest with
  | [] => some (.clip, none, place)
  | c :: rest =>
    match chomping? c with
    | some chomping =>
      match rest with
      | d :: _ =>
        if d = '0' then none
        else if d.isDigit then some (chomping, some (d.toNat - '0'.toNat), place.skip 2)
        else some (chomping, none, place.skip)
      | [] => some (chomping, none, place.skip)
    | none =>
      if c = '0' then none
      else if c.isDigit then
        let increment := some (c.toNat - '0'.toNat)
        match rest.head?.bind chomping? with
        | some chomping => some (chomping, increment, place.skip 2)
        | none => some (.clip, increment, place.skip)
      else some (.clip, none, place)

/-- The place behind the blanks and the comment at the end of a line. -/
def skipComment (place : Place) : Place :=
  let place := place.skipWhile isBlank
  match place.rest with
  | '#' :: _ => place.skipWhile (!isBreak ·)
  | _ => place

/-- Reads a block scalar whose opening indicator is taken. `outer` is the indentation of the
collection around it. -/
def readBlockScalar (literal : Bool) (outer : Int) (place : Place) :
    Option (List Char × Place) := do
  let (chomping, increment, place) ← readBlockHeader place
  let place := skipComment place
  if !atBreakOrEnd place.rest then none
  else
    let place := place.skipBreak
    let given := increment.map fun n => (max outer 0).toNat + n
    let (breaks, widest, place) ← readBlockBreaks given (place.rest.length + 1) [] 0 place
    let indent := given.getD (max (max widest (outer + 1).toNat) 1)
    let (block, place) ←
      readBlockLines literal indent (place.rest.length + 1) { emptyLines := breaks } place
    let tail :=
      match chomping with
      | .strip => []
      | .clip => block.lineBreak
      | .keep => block.lineBreak ++ block.emptyLines
    return (block.text ++ tail, place)

end WidgetPipeline.Yaml
