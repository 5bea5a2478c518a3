import WidgetPipeline.Diagnostic
import WidgetPipeline.Export
import WidgetPipeline.Json.Basic

/-!
The steps that use a program from outside: transpilation and the format check. A converter is a
function from a text to a text or to a message that says why there is none; a failure becomes a
diagnostic and never stops a run.
-/

namespace WidgetPipeline

structure ConverterError where
  message : String
deriving DecidableEq, Repr

abbrev TranspilerOptions := OrderedMap String Json

/-- Turns typed source with markup into plain source. -/
abbrev Transpiler := String → TranspilerOptions → Except ConverterError String

/-- Formats a source text. The second argument names the parser to use. -/
abbrev Formatter := String → String → Except ConverterError String

/-- The options that a transpiler gets unless the project asks for others: types are taken out, and
markup and module syntax stay as they are. -/
def defaultTranspilerOptions : TranspilerOptions :=
  .ofList [
    ("disableESTransforms", .bool true),
    ("enableLegacyBabel5ModuleInterop", .bool true),
    ("jsxRuntime", .string "preserve"),
    ("transforms", .array [.string "typescript", .string "jsx"])]

/-- The options for a project: the defaults, and over them the `compilerOptions` of its document. -/
def transpilerOptions (projectConfig : Option Json) : TranspilerOptions :=
  match projectConfig.bind (·.get? "compilerOptions") with
  | some (.object fields) =>
    fields.foldl (fun options field => options.insert field.1 field.2) defaultTranspilerOptions
  | _ => defaultTranspilerOptions

/-- The diagnostic for a failure: its message, or a general one where it has none. -/
def failureDiagnostic (error : ConverterError) (general : String) : Diagnostic :=
  .error (if error.message.isEmpty then general else error.message)

/-- Transpiles a text and turns its default export into a `return`. A text that the transpiler
refuses is used as it is, since it still has to run as a function body. -/
def transpile (transpiler : Transpiler) (projectConfig : Option Json) (code : String) : StepOutput :=
  let (transpiled, failures) :=
    match transpiler code (transpilerOptions projectConfig) with
    | .ok transpiled => (transpiled, [])
    | .error error =>
      (code, [failureDiagnostic error "Something went wrong while transpiling TypeScript"])
  let warnings :=
    if Export.hasPhrase transpiled.toList then [] else [Diagnostic.warn "No default export found"]
  { code := Export.toFunctionBody transpiled, logs := failures ++ warnings }

def formatParser : String := "babel"

/-- Checks that a formatter accepts the text. What it makes of the text is not used, so that the
lines of earlier diagnostics stay right. -/
def checkFormat (formatter : Formatter) (code : String) : StepOutput :=
  match formatter code formatParser with
  | .ok _ => { code }
  | .error error =>
    { code, logs := [failureDiagnostic error "Something went wrong while formatting"] }

end WidgetPipeline
