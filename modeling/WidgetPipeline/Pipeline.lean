import WidgetPipeline.Converter
import WidgetPipeline.Digest.Blake3
import WidgetPipeline.Directive.Extraction
import WidgetPipeline.Failure
import WidgetPipeline.Reference.Resolution
import WidgetPipeline.Script.Scan

/-!
The pipeline: extraction of directives, transpilation, resolution of references and the format
check. Each stage that runs leaves a trace with the hashes of its input and output. Only a text that
cannot be scanned stops a run; a directive named `skip` ends it before references are resolved.
-/

namespace WidgetPipeline

structure PipelineOptions where
  compile : Bool := false
  format : Bool := true
  /-- The project's document, whose `compilerOptions` extend the transpiler's. -/
  projectConfig : Option Json := none

inductive Stage where
  | extract
  | transpile
  | resolve
  | format
deriving DecidableEq, Repr

def Stage.name : Stage → String
  | .extract => "extract.directives"
  | .transpile => "transpile.typescript"
  | .resolve => "resolve.references"
  | .format => "format.check"

structure StageTrace where
  id : String
  inHash : String
  outHash : String
  latencyMs : Nat := 0
  /-- The number of diagnostics that the stage added to the log. -/
  diagnostics : Nat
deriving DecidableEq, Repr

structure PipelineOutput where
  code : String
  logs : List Diagnostic := []
  stages : List StageTrace := []
deriving DecidableEq, Repr

namespace PipelineOutput

def hasErrors (output : PipelineOutput) : Bool := anyError output.logs

def count (output : PipelineOutput) (level : Level) : Nat := countLevel level output.logs

/-- The hash of a text as traces name it. -/
def hashText (text : String) : String := "blake3:" ++ Digest.Blake3.hexOfText text

/-- The output after a stage that was given the code of this one. -/
def andThen (output : PipelineOutput) (stage : Stage) (step : StepOutput) : PipelineOutput where
  code := step.code
  logs := output.logs ++ step.logs
  stages := output.stages ++
    [{ id := stage.name
       inHash := hashText output.code
       outHash := hashText step.code
       diagnostics := step.logs.length }]

/-- The output with a diagnostic that belongs to no stage. -/
def log (output : PipelineOutput) (diagnostic : Diagnostic) : PipelineOutput :=
  { output with logs := output.logs ++ [diagnostic] }

end PipelineOutput

structure Runner where
  scanner : CommentScanner := Script.scanComments
  transpiler : Option Transpiler := none
  formatter : Option Formatter := none

namespace Runner

/-- The transpile stage. A run that asks for it without a transpiler goes on with a failure in the
log. -/
def transpileStep (runner : Runner) (options : PipelineOptions) (code : String) : StepOutput :=
  match runner.transpiler with
  | some transpiler => transpile transpiler options.projectConfig code
  | none => { code, logs := [.error "No TypeScript transpiler configured"] }

def skipDirective? (directives : List Directive) : Option Directive :=
  directives.find? fun directive => directive.name = "skip"

def skipNote (directive : Directive) : Diagnostic :=
  { message := "Skipping compilation because of @skip comment"
    level := .info
    line := some directive.firstLine }

/-- The format check at the end of a run. -/
def finish (runner : Runner) (options : PipelineOptions) (output : PipelineOutput) :
    PipelineOutput :=
  if options.format then
    match runner.formatter with
    | some formatter => output.andThen .format (checkFormat formatter output.code)
    | none => output.log (.info "No formatter configured, format check skipped")
  else output

def runExtracted (runner : Runner) (tables : ReferenceTables) (options : PipelineOptions)
    (code : String) (extraction : Extraction) : PipelineOutput :=
  let output : PipelineOutput := { code }
  let output := output.andThen .extract { code := extraction.code, logs := extraction.logs }
  let output :=
    if options.compile then output.andThen .transpile (runner.transpileStep options output.code)
    else output
  match skipDirective? extraction.directives with
  | some directive => output.log (skipNote directive)
  | none =>
    runner.finish options (output.andThen .resolve (resolveReferences tables output.code))

def run (runner : Runner) (tables : ReferenceTables) (options : PipelineOptions) (code : String) :
    Except PipelineError PipelineOutput :=
  match extractDirectives runner.scanner code with
  | .ok extraction => .ok (runner.runExtracted tables options code extraction)
  | .error error => .error (.commentScan error)

end Runner

end WidgetPipeline
