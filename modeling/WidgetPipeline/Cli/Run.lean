import WidgetPipeline.Cli.Arguments
import WidgetPipeline.FileTree.Basic
import WidgetPipeline.External.Converter
import WidgetPipeline.Pipeline
import WidgetPipeline.Report.Encode
import WidgetPipeline.Tables.Reader

/-!
A run of the command line: it reads the source text, the tables and the project's document, sets up
the converters, runs the pipeline and reports. The first of these that fails ends the run with a
message; the message of a cause stands behind what was attempted.
-/

namespace WidgetPipeline.Cli

open External (CommandLine Host)

/-- Why a run ends without a result. -/
inductive RunError where
  | sourceFile (path : String) (error : FileError)
  | standardInput (error : Text.Utf8.DecodeError)
  | tables (path : String) (error : PipelineError)
  | projectFile (path : String) (error : FileError)
  | project (path : String)
  | emptyCommand (option : String)
  | pipeline (error : PipelineError)
deriving DecidableEq, Repr

/-- The error in words. A cause that only names another one is followed by it. What a parser says
about a malformed project document is left out: it names a place in the text in the parser's own
words, and a fixed text stands where it would be printed. -/
def RunError.message : RunError → String
  | .sourceFile path error => s!"failed to read {path}: {error.message}"
  | .standardInput error => s!"failed to read stdin: {error.message}"
  | .tables path error => s!"failed to load reference tables from {path}: {error.chain}"
  | .projectFile path error => s!"failed to read tsconfig {path}: {error.message}"
  | .project path => s!"invalid tsconfig {path}: malformed document"
  | .emptyCommand option => s!"--{option} command is empty"
  | .pipeline error => error.chain

structure Surroundings where
  fileText : String → Except FileError String
  standardInput : Except Text.Utf8.DecodeError String
  host : Host

/-- What a run leaves: its status and what it wrote. -/
structure Result where
  status : Nat
  output : String := ""
  errors : String := ""
deriving DecidableEq, Repr

/-- The status of a run whose diagnostics are refused. -/
def deniedStatus : Nat := 2

/-- Gives an error of one kind the place of another. -/
def orFail {α ε : Type} (explain : ε → RunError) : Except ε α → Except RunError α
  | .ok value => .ok value
  | .error error => .error (explain error)

def commandOf (option : String) : Option String → Except RunError (Option CommandLine)
  | none => .ok none
  | some text =>
    match CommandLine.ofText? text with
    | some command => .ok (some command)
    | none => .error (.emptyCommand option)

namespace Arguments

def source (arguments : Arguments) (world : Surroundings) : Except RunError String :=
  if arguments.input = "-" then orFail .standardInput world.standardInput
  else orFail (.sourceFile arguments.input) (world.fileText arguments.input)

/-- The reference tables, empty ones unless a file is named. -/
def tables (arguments : Arguments) (world : Surroundings) : Except RunError ReferenceTables :=
  match arguments.params with
  | none => .ok {}
  | some path => orFail (.tables path) (ReferenceTables.load world.fileText path)

def project (arguments : Arguments) (world : Surroundings) : Except RunError (Option Json) :=
  match arguments.tsconfig with
  | none => .ok none
  | some path => do
    let text ← orFail (.projectFile path) (world.fileText path)
    match Json.read? text with
    | some value => return some value
    | none => throw (.project path)

def options (arguments : Arguments) (project : Option Json) : PipelineOptions where
  compile := arguments.typescript
  format := !arguments.noFormat
  projectConfig := project

def runner (arguments : Arguments) (host : Host) : Except RunError Runner := do
  let transpiler ← commandOf "transpiler" arguments.transpiler
  let formatter ← commandOf "formatter" arguments.formatter
  return {
    transpiler := transpiler.map (·.transpiler host)
    formatter := formatter.map (·.formatter host) }

/-- The files that a run may read: those that are named, and the words of commands. -/
def fileNames (arguments : Arguments) : List String :=
  let commands := arguments.transpiler.toList ++ arguments.formatter.toList
  [arguments.input] ++ arguments.params.toList ++ arguments.tsconfig.toList ++
    commands.flatMap fun command => (Text.blankSeparated command.toList).map String.ofList

def transform (arguments : Arguments) (world : Surroundings) : Except RunError PipelineOutput := do
  let code ← arguments.source world
  let tables ← arguments.tables world
  let project ← arguments.project world
  let runner ← arguments.runner world.host
  orFail .pipeline (runner.run tables (arguments.options project) code)

/-- Reports the result of the pipeline: as one document, or as the code with the log beside it. -/
def report (arguments : Arguments) (output : PipelineOutput) : Result :=
  let status := if arguments.denyErrors && output.hasErrors then deniedStatus else 0
  if arguments.json then { status, output := output.toJson.indented ++ "\n" }
  else
    { status
      output := output.code ++ "\n"
      errors := String.join (output.logs.map fun log => log.display ++ "\n") }

def run (arguments : Arguments) (world : Surroundings) : Result :=
  match arguments.transform world with
  | .ok output => arguments.report output
  | .error error => { status := 1, errors := s!"error: {error.message}\n" }

end Arguments

def versionText : String := "bosw 1.0.0\n"

def usageText : String :=
  "Usage: bosw [OPTIONS] <INPUT>\n\n" ++
  "Strips directive comments, transpiles and resolves references in widget source\n\n" ++
  "  -p, --params FILE      reference tables in YAML or JSON\n" ++
  "      --typescript       run the transpiler\n" ++
  "      --tsconfig FILE    document whose compilerOptions extend the transpiler's\n" ++
  "      --no-format        skip the format check\n" ++
  "      --transpiler CMD   transpiler that reads source from its standard input\n" ++
  "      --formatter CMD    formatter that reads source from its standard input\n" ++
  "      --json             print code, diagnostics and stage traces as JSON\n" ++
  "      --deny-errors      exit with status 2 on any error diagnostic\n" ++
  "  -v, --verbose          more logging\n" ++
  "  -h, --help             print this text\n" ++
  "  -V, --version          print the version\n"

def ArgumentError.message : ArgumentError → String
  | .unknown => "unexpected argument"
  | .badValue => "a value is missing or empty"
  | .noInput => "the input is missing"
  | .repeated => "an option cannot be used multiple times"
  | .needlessValue => "an option takes no value"
  | .helpWanted | .versionWanted => ""

/-- The answer to arguments that lead to no run. -/
def ArgumentError.result : ArgumentError → Result
  | .helpWanted => { status := 0, output := usageText }
  | .versionWanted => { status := 0, output := versionText }
  | error => { status := 2, errors := s!"error: {error.message}\n\n" ++ usageText }

def runWords (words : List String) (world : Surroundings) : Result :=
  match Arguments.ofWords words with
  | .ok arguments => arguments.run world
  | .error error => error.result

end WidgetPipeline.Cli
