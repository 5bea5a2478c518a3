import WidgetPipeline.Shell.Builtin.Options
import WidgetPipeline.Shell.Field
import WidgetPipeline.Shell.Variables

/-!
The command that reads a line. The line is separated into fields as the results of expansions are, and
the last variable gets what is left. A backslash takes the meaning from the next character and joins
lines, unless it is to be left alone.
-/

namespace WidgetPipeline.Shell.Builtin

/-- What was read of a line. Pieces and their cells stand in reverse. -/
structure Line where
  pieces : Expanded := []
  cells : List Cell := []
  escaping : Bool := false

/-- Ends the piece that is read. -/
def Line.settle (line : Line) : Line :=
  { line with
    pieces := { cells := line.cells.reverse, separation := .atSeparators } :: line.pieces
    cells := [] }

/-- Reads a line from the front of some bytes. Also gives whether its end was found, and the bytes
behind it. -/
def readLine (raw : Bool) (line : Line) : List UInt8 → Line × Bool × List UInt8
  | [] => (line, false, [])
  | b :: bytes =>
    let c := Char.ofNat b.toNat
    if c = '\x00' then readLine raw line bytes
    else if line.escaping then
      let line := { line.settle with escaping := false }
      if c = '\n' then readLine raw line bytes
      else
        let piece : Piece := { cells := [.escaped c] }
        readLine raw { line with pieces := piece :: line.pieces } bytes
    else if c = '\\' && !raw then readLine raw { line with escaping := true } bytes
    else if c = '\n' then (line, true, bytes)
    else readLine raw { line with cells := .plain c :: line.cells } bytes

def assignFields : List String → List (List Cell) → Action Unit
  | [], _ => return
  | name :: names, fields => do
    setVariable name (String.ofList (Cell.text (fields.headD [])))
    assignFields names fields.tail

def read (arguments : List String) : Action Nat := do
  let (given, names) ← options { bare := ['r'], withValue := ['p'] } arguments
  if names.isEmpty then fail "arg count"
  let raw := given.any (·.1 = 'r')
  let shell ← shell
  let (line, ended) ←
    match shell.channel? 0 with
    | none => pure ({}, false)
    | some channel =>
      match (← world).available channel with
      | .error _ => pure ({}, false)
      | .ok bytes =>
        let (line, ended, rest) := readLine raw {} bytes
        changeWorld (·.leave channel rest)
        if !ended then changeWorld (·.ask channel)
        pure (line, ended)
  let expanded := line.settle.pieces.reverse
  assignFields names (Field.split shell.fieldSeparators (some names.length) expanded)
  return if ended then 0 else 1

end WidgetPipeline.Shell.Builtin
