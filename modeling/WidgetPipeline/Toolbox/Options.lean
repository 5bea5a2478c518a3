import WidgetPipeline.Toolbox.Tool

/-!
The options of tools. An argument that starts with a dash holds option letters, one with two dashes a
long option, which may be shortened as long as it is clear; two dashes alone end the options. What is
no option is an operand, and options may follow operands unless the tool is strict.
-/

namespace WidgetPipeline.Toolbox

open External (Outcome)

inductive OptionValue where
  | never
  | required
deriving DecidableEq, Repr

structure OptionTable where
  letters : List Char
  /-- The long options, each with the name under which it counts. -/
  long : List (String × OptionValue)
  /-- The first operand ends the options. -/
  strict : Bool := false

inductive GivenOption where
  | letter (c : Char)
  | long (name : String) (value : Option String)
deriving DecidableEq, Repr

inductive OptionError where
  | badLetter (c : Char)
  /-- No option has the name, given with its dashes. -/
  | unknown (text : String)
  | ambiguous (text : String) (candidates : List String)
  | needlessValue (name : String)
  | noValue (name : String)
deriving DecidableEq, Repr

def OptionError.message : OptionError → String
  | .badLetter c => s!"invalid option -- '{c}'"
  | .unknown text => s!"unrecognized option '{text}'"
  | .ambiguous text candidates =>
    s!"option '{text}' is ambiguous; possibilities:" ++
      String.join (candidates.map fun name => s!" '--{name}'")
  | .needlessValue name => s!"option '--{name}' doesn't allow an argument"
  | .noValue name => s!"option '--{name}' requires an argument"

/-- The arguments of a tool once they are understood: the options up to the first that is wrong, that
one, and the operands. -/
structure ReadArguments where
  options : List GivenOption := []
  error : Option OptionError := none
  operands : List String := []

namespace ReadArguments

def withOption (arguments : ReadArguments) (option : GivenOption) : ReadArguments :=
  { arguments with options := option :: arguments.options }

def withOperand (arguments : ReadArguments) (operand : String) : ReadArguments :=
  { arguments with operands := operand :: arguments.operands }

end ReadArguments

namespace OptionTable

def readLetters (table : OptionTable) : List Char → List GivenOption × Option OptionError
  | [] => ([], none)
  | c :: cs =>
    if table.letters.contains c then
      let (options, error) := table.readLetters cs
      (.letter c :: options, error)
    else ([], some (.badLetter c))

def findLong (table : OptionTable) (text : String) :
    Except OptionError (String × OptionValue) :=
  let name := String.ofList (text.toList.takeWhile (· ≠ '='))
  match table.long.find? (·.1 = name), table.long.filter (·.1.startsWith name) with
  | some option, _ => .ok option
  | none, [option] => .ok option
  | none, [] => .error (.unknown s!"--{text}")
  | none, candidates => .error (.ambiguous s!"--{text}" (candidates.map (·.1)))

def givenValue? (text : String) : Option String :=
  match text.toList.dropWhile (· ≠ '=') with
  | _ :: value => some (String.ofList value)
  | [] => none

def read (table : OptionTable) : List String → ReadArguments
  | [] => {}
  | argument :: rest =>
    match argument.toList with
    | ['-', '-'] => { operands := rest }
    | '-' :: '-' :: text =>
      let text := String.ofList text
      match table.findLong text with
      | .error error => { error := some error }
      | .ok (name, kind) =>
        match kind, givenValue? text, rest with
        | .never, none, rest => (table.read rest).withOption (.long name none)
        | .never, some _, _ => { error := some (.needlessValue name) }
        | .required, some value, rest => (table.read rest).withOption (.long name (some value))
        | .required, none, value :: rest => (table.read rest).withOption (.long name (some value))
        | .required, none, [] => { error := some (.noValue name) }
    | '-' :: c :: cs =>
      match table.readLetters (c :: cs) with
      | (options, some error) => { options, error := some error }
      | (options, none) => options.foldr (fun option read => read.withOption option) (table.read rest)
    | _ =>
      if table.strict then { operands := argument :: rest }
      else (table.read rest).withOperand argument

end OptionTable

end WidgetPipeline.Toolbox
