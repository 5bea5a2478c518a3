import WidgetPipeline.Converter
import WidgetPipeline.External.Program
import WidgetPipeline.Json.Printer
import WidgetPipeline.Report.Encode

/-!
Converters backed by external programs. The source text is the program's input and its output the
converted text. A program that fails is quoted by what it wrote to its second output.
-/

namespace WidgetPipeline.External

structure CommandLine where
  program : String
  arguments : List String := []
deriving DecidableEq, Repr

namespace CommandLine

/-- The words of a text between white space; there are no quotes. A blank text names no program. -/
def ofText? (text : String) : Option CommandLine :=
  match (Text.blankSeparated text.toList).map String.ofList with
  | program :: arguments => some { program, arguments }
  | [] => none

def optionsVariable : String := "BOSW_TRANSPILER_OPTIONS"

def parserVariable : String := "BOSW_FORMAT_PARSER"

def parserPlaceholder : String := "\x7bparser\x7d"

/-- What a program that failed has to say: its second output, or how it ended. -/
def failureMessage (program : String) (outcome : Outcome) : String :=
  let errors := Text.trim (Text.Utf8.decodeLossy outcome.errors).toList
  if errors.isEmpty then s!"\x60{program}\x60 exited with {outcome.status.message}"
  else String.ofList errors

/-- The text that a program makes of another. -/
def convert (host : Host) (command : CommandLine) (environment : List (String × String))
    (code : String) : Except ConverterError String :=
  let program := command.program
  let invocation : Invocation :=
    { program, arguments := command.arguments, environment, input := Text.Utf8.encode code }
  match host.call invocation with
  | .error error => .error ⟨s!"failed to start \x60{program}\x60: {error.message}"⟩
  | .ok outcome =>
    if !outcome.status.success then .error ⟨failureMessage program outcome⟩
    else
      match Text.Utf8.decode outcome.output with
      | .ok text => .ok text
      | .error error => .error ⟨s!"\x60{program}\x60 produced invalid UTF-8: {error.message}"⟩

/-- The transpiler that a program is. It finds its options in a variable. -/
def transpiler (host : Host) (command : CommandLine) : Transpiler := fun code options =>
  command.convert host [(optionsVariable, (TranspilerOptions.toJson options).compact)] code

/-- The command for a parser: the placeholder is replaced where it is a whole argument. -/
def forParser (command : CommandLine) (hint : String) : CommandLine :=
  { command with
    arguments := command.arguments.map fun argument =>
      if argument = parserPlaceholder then hint else argument }

/-- The formatter that a program is. It finds its parser in a variable and among its arguments. -/
def formatter (host : Host) (command : CommandLine) : Formatter := fun code hint =>
  (command.forParser hint).convert host [(parserVariable, hint)] code

end CommandLine

end WidgetPipeline.External
