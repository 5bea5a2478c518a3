import WidgetPipeline.Shell.State

/-!
Option letters in front of the arguments of a command. A letter may take a value, which stands behind
it or is the next argument; two dashes end the options.
-/

namespace WidgetPipeline.Shell.Builtin

structure Letters where
  bare : List Char := []
  withValue : List Char := []

/-- A letter that was given, with its value. -/
abbrev Given := Char × Option String

/-- The letters of an argument, and the arguments behind it. Letters with values end the argument. -/
def readLetters (letters : Letters) (arguments : List String) :
    List Char → Except String (List Given × List String)
  | [] => .ok ([], arguments)
  | c :: cs =>
    if letters.bare.contains c then do
      let (given, arguments) ← readLetters letters arguments cs
      return ((c, none) :: given, arguments)
    else if letters.withValue.contains c then
      match cs, arguments with
      | [], value :: arguments => .ok ([(c, some value)], arguments)
      | [], [] => .error s!"No arg for -{c} option"
      | cs, arguments => .ok ([(c, some (String.ofList cs))], arguments)
    else .error s!"Illegal option -{c}"

/-- The options at the start of arguments, and the arguments behind them. `fuel` bounds the number of
arguments. -/
def readOptions (letters : Letters) :
    Nat → List String → Except String (List Given × List String)
  | 0, arguments => .ok ([], arguments)
  | fuel + 1, arguments =>
    match arguments with
    | argument :: rest =>
      match argument.toList with
      | ['-', '-'] => .ok ([], rest)
      | '-' :: c :: cs => do
        let (given, rest) ← readLetters letters rest (c :: cs)
        let (more, rest) ← readOptions letters fuel rest
        return (given ++ more, rest)
      | _ => .ok ([], arguments)
    | [] => .ok ([], [])

def options (letters : Letters) (arguments : List String) : Action (List Given × List String) :=
  match readOptions letters (arguments.length + 1) arguments with
  | .ok result => return result
  | .error message => fail message

def operands (arguments : List String) : Action (List String) :=
  return (← options {} arguments).2

end WidgetPipeline.Shell.Builtin
