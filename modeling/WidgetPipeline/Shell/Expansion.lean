import WidgetPipeline.FileTree.Standard
import WidgetPipeline.Shell.Arithmetic
import WidgetPipeline.Shell.Field
import WidgetPipeline.Shell.FileNames
import WidgetPipeline.Shell.Variables

/-!
Expansions. The parameters, commands and expressions in a word are replaced by what they stand for;
the result is then separated into fields, and fields that are patterns into names of files.
-/

namespace WidgetPipeline.Shell

structure Manner where
  quoted : Bool := false
  fields : Bool := false
  /-- It is the word of an expansion, whose plain text is separated too. -/
  inner : Bool := false
  /-- A tilde at the start stands for a directory. -/
  tilde : Bool := false
  /-- It is an assignment, and a tilde behind its signs stands for a directory. -/
  assignment : Bool := false

/-- Where the word of an expansion is looked at. -/
structure Walk where
  inQuotes : Bool := false
  tilde : Bool := false
  behindSign : Bool := false
  skip : Nat := 0
  /-- The last plain characters, in reverse. -/
  run : List Cell := []
  /-- The pieces in front of them, in reverse. -/
  pieces : Expanded := []

/-- The runner of commands inside of words: it gives the output of a command. -/
abbrev Capture := Command → Action String

/-- The options with their names and letters. The last ones are not set by letters. -/
def optionTable : List (String × Char) :=
  [("errexit", 'e'), ("noglob", 'f'), ("ignoreeof", 'I'), ("interactive", 'i'), ("monitor", 'm'),
    ("noexec", 'n'), ("stdin", 's'), ("xtrace", 'x'), ("verbose", 'v'), ("vi", 'V'), ("emacs", 'E'),
    ("noclobber", 'C'), ("allexport", 'a'), ("notify", 'b'), ("nounset", 'u'), ("privileged", 'p'),
    ("nolog", '1'), ("debug", '2')]

def optionLetters (shell : Interpreter) : String :=
  String.ofList ((optionTable.reverse.map (·.2)).filter fun c => shell.has c && !c.isDigit)

/-- The cells between two parameters that are written as one. -/
def parameterGap (shell : Interpreter) (all quoted fields : Bool) : List Cell :=
  if all && quoted && fields then [.gap]
  else
    match shell.value? "IFS" with
    | none => [.plain ' ']
    | some separators =>
      if fields && !quoted then [.gap]
      else Cell.ofValue quoted (String.ofList (separators.toList.take 1))

def parameterCells? (shell : Interpreter) (name : String) (quoted fields : Bool) : Option (List Cell) :=
  let ofText (text : String) : List Cell := Cell.ofValue quoted text
  match name with
  | "$" => some (ofText (toString shell.process))
  | "?" => some (ofText (toString shell.status))
  | "#" => some (ofText (toString shell.parameters.length))
  | "!" => shell.background.map fun process => ofText (toString process)
  | "-" => some (ofText (optionLetters shell))
  | "@" | "*" =>
    let gap := parameterGap shell (name = "@") quoted fields
    some (gap.intercalate (shell.parameters.map ofText))
  | name =>
    if name.toList.all Char.isDigit then
      match (decimalNumber? name).getD (shell.parameters.length + 1) with
      | 0 => some (ofText shell.name)
      | n + 1 => shell.parameters[n]?.map ofText
    else (shell.value? name).map ofText

def separationOf (shell : Interpreter) (name : String) (quoted : Bool) : Separation :=
  if !quoted then .atSeparators
  else if name = "@" && !shell.parameters.isEmpty then .atGaps
  else .never

/-- Stops because a parameter has no value. -/
def failUnset {α : Type} (name : String) (message : Option String) (orEmpty : Bool) : Action α :=
  let usual := "parameter not set" ++ (if orEmpty then " or null" else "")
  fail s!"{name}: {message.getD usual}"

def userHome? (shell : Interpreter) (user : String) : Option String :=
  if user.isEmpty then shell.value? "HOME"
  else (FileTree.users.find? (·.name = user)).map (·.home)

def tildeName? (colonEnds : Bool) : Word → Option (List Char)
  | [] => some []
  | .plain c :: rest =>
    if c = '/' || (c = ':' && colonEnds) then some []
    else (tildeName? colonEnds rest).map (c :: ·)
  | _ => none

/-- The piece that stands for a tilde, and the number of characters behind it that belong to it. -/
def tildePiece? (shell : Interpreter) (colonEnds : Bool) (rest : Word) : Option (Piece × Nat) := do
  let name ← tildeName? colonEnds rest
  let home ← userHome? shell (String.ofList name)
  return ({ cells := Cell.ofValue true home }, name.length)

def calculate (text : String) : Action String := do
  let shell ← shell
  let (result, assigned) := Arithmetic.value shell.value? text
  assigned.reverse.forM fun (name, value) => setVariable name (toString value)
  match result with
  | .error (.wrong reason) => fail s!"arithmetic expression: {reason}: \"{text}\""
  | .error (.badValue value) => fail (badNumber value)
  | .error .overflow => throw (.killed shell.self 8)
  | .ok n => return toString n

def dropLastLines (text : String) : String :=
  String.ofList (text.toList.reverse.dropWhile (· = '\n')).reverse

section

variable (capture : Capture)

/-- Does what is to be done with a parameter. `expand` expands the word that says more; `bare` tells that
there is none. -/
def useParameter (expand : Manner → Action Expanded) (bare : Bool) (manner : Manner) (name : String)
    (use : ParameterUse) : Action Expanded := do
  let shell ← shell
  let quoted := manner.quoted
  let cells := parameterCells? shell name quoted manner.fields
  let isSet (orEmpty : Bool) : Bool :=
    match cells with
    | some cells => !(orEmpty && cells.isEmpty)
    | none => false
  let value (cells : List Cell) : Expanded :=
    [{ cells, separation := separationOf shell name quoted }]
  let nothing : Expanded := [{ cells := [], separation := separationOf shell name quoted }]
  let word : Manner := { manner with tilde := true, inner := true }
  let plainText : Action String := return (← expand { tilde := true }).text
  let needed : Action (List Cell) := do
    match cells with
    | some cells => return cells
    | none =>
      if shell.has 'u' && name ≠ "@" && name ≠ "*" then failUnset name none false
      return []
  match use with
  | .value | .valueAndWord =>
    if cells.isNone && !shell.has 'u' then return []
    return value (← needed)
  | .length =>
    let cells ← needed
    let digits := Cell.ofValue quoted (toString cells.length)
    return [{ cells := digits, separation := if quoted then .never else .atSeparators }]
  | .orElse orEmpty => if isSet orEmpty then return value (cells.getD []) else expand word
  | .ifSet orEmpty => if isSet orEmpty then expand word else return nothing
  | .orAssign orEmpty =>
    if isSet orEmpty then return value (cells.getD [])
    setVariable name (← plainText)
    let cells := parameterCells? (← Shell.shell) name quoted manner.fields
    return value (cells.getD [])
  | .orFail orEmpty =>
    if isSet orEmpty then return value (cells.getD [])
    if bare then failUnset name none orEmpty
    failUnset name (some (← plainText)) orEmpty
  | .trim front longest =>
    if cells.isNone && !shell.has 'u' then return []
    let cells ← needed
    let pattern := (← expand { tilde := true }).pattern
    let text := cells.map fun cell => cell.char?.getD '\x00'
    let rest := trimmed pattern text front longest
    let kept :=
      if front then cells.drop (text.length - rest.length) else cells.take rest.length
    return value kept
  | .wrong => fail "Bad substitution"

def Walk.settle (walk : Walk) (manner : Manner) : Walk :=
  if walk.run.isEmpty then walk
  else
    let separation : Separation :=
      if manner.inner && !manner.quoted && !walk.inQuotes then .atSeparators else .never
    { walk with run := [], pieces := { cells := walk.run.reverse, separation } :: walk.pieces }

def Walk.add (walk : Walk) (manner : Manner) (pieces : Expanded) : Walk :=
  let walk := walk.settle manner
  { walk with pieces := pieces.reverse ++ walk.pieces }

def expandParts (manner : Manner) (walk : Walk) : Word → Action Expanded
  | [] => return (walk.settle manner).pieces.reverse
  | .parameter name .valueAndWord word :: _ => do
    let quoted := manner.quoted || walk.inQuotes
    let pieces ← useParameter (fun _ => return []) true { manner with quoted } name .value
    expandParts manner ({ walk with tilde := false, skip := walk.skip - 1 }.add manner pieces) word
  | part :: rest => do
    let quoted := manner.quoted || walk.inQuotes
    let next := { walk with tilde := false, skip := walk.skip - 1 }
    let separation : Separation := if quoted then .never else .atSeparators
    let expanded : Walk ←
      match part with
      | .plain c =>
        if 0 < walk.skip then pure next
        else
          let shell ← shell
          let tilde :=
            if c = '~' && walk.tilde then tildePiece? shell manner.assignment rest else none
          match tilde with
          | some (piece, length) => pure { next.add manner [piece] with skip := length }
          | none =>
            let sign := manner.assignment && c = '=' && !walk.behindSign
            let colon := manner.assignment && c = ':'
            pure { next with
              tilde := sign || colon
              behindSign := walk.behindSign || sign
              run := .plain c :: walk.run }
      | .escaped c => pure (next.add manner [{ cells := [.escaped c] }])
      | .quoteMark =>
        pure { next.add manner [{ cells := [.quoteMark] }] with inQuotes := !walk.inQuotes }
      | .parameter name use word =>
        let expand (manner : Manner) : Action Expanded :=
          expandParts manner { tilde := manner.tilde, behindSign := walk.behindSign } word
        let pieces ← useParameter expand word.isEmpty { manner with quoted } name use
        pure (next.add manner pieces)
      | .allParameters =>
        let pieces ← useParameter (fun _ => return []) true { manner with quoted := true } "@" .value
        pure (next.add manner pieces)
      | .output command =>
        let output := dropLastLines (← capture command)
        pure (next.add manner [{ cells := Cell.ofValue quoted output, separation }])
      | .arithmetic expression =>
        let text := (← expandParts {} {} expression).text
        pure (next.add manner [{ cells := Cell.ofValue quoted (← calculate text), separation }])
    expandParts manner expanded rest

def expandText (manner : Manner) (word : Word) : Action String :=
  return (← expandParts capture manner { tilde := manner.tilde } word).text

def expandPattern (word : Word) : Action (List Char) :=
  return (← expandParts capture { tilde := true } { tilde := true } word).pattern

/-- Expands a word to fields, and patterns among these to names of files. -/
def expandFields (word : Word) : Action (List String) := do
  let expanded ← expandParts capture { fields := true, tilde := true } { tilde := true } word
  let shell ← shell
  let files ← files
  return (Field.split shell.fieldSeparators none expanded).flatMap fun cells =>
    let text := String.ofList (Cell.text cells)
    let names := if shell.has 'f' then [] else FileNames.expand files (Cell.pattern true cells)
    if names.isEmpty then [text] else names

def expandWords (words : List Word) : Action (List String) :=
  return (← words.mapM (expandFields capture)).flatten

end

end WidgetPipeline.Shell
