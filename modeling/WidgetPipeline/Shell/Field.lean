import WidgetPipeline.Shell.Reader.Word

/-!
Expanded words. An expanded word is a row of pieces of characters, and separators count only in the
pieces that come from expansions. Fields are cut out of it there, and turn into patterns or plain text
in the end.
-/

namespace WidgetPipeline.Shell

/-- A character of an expanded word. -/
inductive Cell where
  | plain (c : Char)
  /-- A character that stands for itself. -/
  | escaped (c : Char)
  | quoteMark
  /-- The end of a parameter that is a field. -/
  | gap
deriving DecidableEq, Repr

/-- Where the characters of a piece are separated. -/
inductive Separation where
  | never
  | atSeparators
  | atGaps
deriving DecidableEq, Repr

structure Piece where
  cells : List Cell
  separation : Separation := .never

abbrev Expanded := List Piece

namespace Cell

def char? : Cell → Option Char
  | .plain c | .escaped c => some c
  | .quoteMark | .gap => none

/-- The cells of a value. Between quotes, characters with a meaning in patterns stand for themselves. -/
def ofValue (quoted : Bool) (value : String) : List Cell :=
  value.toList.map fun c =>
    let active :=
      if quoted then Quoting.isActive c || c = '\\' else 0x81 ≤ c.toNat && c.toNat ≤ 0x88
    if active then .escaped c else .plain c

def text (cells : List Cell) : List Char := cells.filterMap char?

/-- The pattern that cells spell. `escapable` tells that there was no bare backslash in front. -/
def pattern (escapable : Bool) : List Cell → List Char
  | [] => []
  | .plain c :: rest => c :: pattern (c ≠ '\\') rest
  | .escaped c :: rest => if escapable then '\\' :: c :: pattern true rest else c :: pattern true rest
  | .quoteMark :: rest => pattern true rest
  | .gap :: rest => pattern escapable rest

end Cell

namespace Expanded

def cells (expanded : Expanded) : List Cell := expanded.flatMap (·.cells)

def text (expanded : Expanded) : String := String.ofList (Cell.text expanded.cells)

def pattern (expanded : Expanded) : List Char := Cell.pattern true expanded.cells

end Expanded

namespace Field

/-- How far the fields are known. The last one and its cells stand in reverse. -/
structure State where
  fields : List (List Cell) := []
  current : List Cell := []
  /-- White space that separates was passed. -/
  inBlanks : Bool := false
  /-- The fields that may still be separated, if that is limited. -/
  left : Option Nat := none
  /-- The length to which the last field is cut. -/
  cut : Option Nat := none

/-- Whether a cell separates fields, and whether it does so as white space. -/
def separates (separators : String) (cell : Cell) : Bool × Bool :=
  match cell with
  | .gap => (true, true)
  | .quoteMark => (false, false)
  | .plain c | .escaped c =>
    let isSeparator := separators.toList.contains c
    (isSeparator, isSeparator && (c = ' ' || c = '\t' || c = '\n'))

def State.finish (state : State) : State :=
  { state with fields := state.current.reverse :: state.fields, current := [] }

def State.push (state : State) (cell : Cell) : State :=
  { state with current := cell :: state.current }

/-- Takes a cell of the field that takes all that is left. Separators at its end are cut off. -/
def takeRest (isSeparator isBlank : Bool) (cell : Cell) (state : State) : State :=
  if isBlank then
    { state.push cell with cut := some (state.cut.getD state.current.length) }
  else
    let cut := if isSeparator && state.inBlanks then state.cut else none
    { state.push cell with cut, inBlanks := false }

/-- Takes a cell where fields are separated. `byGaps` tells that this or the last piece is separated at
gaps only. -/
def take (separators : String) (byGaps : Bool) (state : State) (cell : Cell) : State :=
  let (isSeparator, isBlank) := separates separators cell
  if state.left = some 0 then takeRest isSeparator isBlank cell state
  else if state.inBlanks then
    if isBlank then state
    else if isSeparator then { state with inBlanks := false }
    else { state.push cell with inBlanks := false }
  else if isSeparator then
    let inBlanks := if byGaps then state.inBlanks else isBlank
    if state.current.isEmpty && inBlanks then { state with inBlanks := false }
    else
      match state.left with
      | some 1 =>
        { state.push cell with left := some 0, inBlanks, cut := some state.current.length }
      | left => { state.finish with left := left.map (· - 1), inBlanks }
  else { state.push cell with inBlanks := false }

/-- Takes the pieces of an expanded word. `afterGaps` tells how the last piece was separated. -/
def takePieces (separators : String) (afterGaps : Bool) (state : State) : Expanded → State × Bool
  | [] => (state, afterGaps)
  | piece :: pieces =>
    match piece.separation with
    | .never =>
      takePieces separators afterGaps
        { state with current := piece.cells.reverse ++ state.current } pieces
    | separation =>
      let byGaps := separation = .atGaps
      let state := piece.cells.foldl (take (if byGaps then "" else separators) (byGaps || afterGaps))
        { state with inBlanks := false }
      takePieces separators byGaps state pieces

/-- The fields of an expanded word, at most as many as there may be. -/
def split (separators : String) (most : Option Nat) (expanded : Expanded) : List (List Cell) :=
  let (state, endsInGaps) := takePieces separators false { left := most } expanded
  let current := state.current.reverse
  let current := (state.cut.map current.take).getD current
  (if current.isEmpty && !endsInGaps then state.fields else current :: state.fields).reverse

end Field

end WidgetPipeline.Shell
