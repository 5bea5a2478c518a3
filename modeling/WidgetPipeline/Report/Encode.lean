import WidgetPipeline.Pipeline

/-!
JSON forms of what the pipeline consumes and produces. The fields stand in a fixed order; a field
without a value is left out.
-/

namespace WidgetPipeline

open Json (ofNat)

/-- A field that is left out when it has no value. -/
def Json.optionalField {α : Type} (key : String) (encode : α → Json) :
    Option α → List (String × Json)
  | some value => [(key, encode value)]
  | none => []

def Diagnostic.toJson (diagnostic : Diagnostic) : Json :=
  .object ([("message", .string diagnostic.message), ("level", .string diagnostic.level.name)] ++
    Json.optionalField "source_line" ofNat diagnostic.line)

def Directive.toJson (directive : Directive) : Json :=
  .object ([("name", .string directive.name)] ++
    Json.optionalField "value" .string directive.value ++
    [("begin_line", ofNat directive.firstLine), ("end_line", ofNat directive.lastLine)])

def Comment.toJson (comment : Comment) : Json :=
  .object [("content", .string comment.content), ("begin", ofNat comment.firstLine),
    ("end", ofNat comment.lastLine)]

def Json.ofLogs (logs : List Diagnostic) : Json := .array (logs.map Diagnostic.toJson)

def StepOutput.toJson (output : StepOutput) : Json :=
  .object [("code", .string output.code), ("logs", .ofLogs output.logs)]

def Extraction.toJson (extraction : Extraction) : Json :=
  .object [("code", .string extraction.code), ("logs", .ofLogs extraction.logs),
    ("configs", .array (extraction.directives.map Directive.toJson))]

def StageTrace.toJson (trace : StageTrace) : Json :=
  .object [("id", .string trace.id), ("in_hash", .string trace.inHash),
    ("out_hash", .string trace.outHash), ("latency_ms", ofNat trace.latencyMs),
    ("diagnostics", ofNat trace.diagnostics)]

def PipelineOutput.toJson (output : PipelineOutput) : Json :=
  .object [("code", .string output.code), ("logs", .ofLogs output.logs),
    ("stages", .array (output.stages.map StageTrace.toJson))]

def PipelineOptions.toJson (options : PipelineOptions) : Json :=
  .object ([("compileTypeScript", .bool options.compile), ("format", .bool options.format)] ++
    Json.optionalField "tsConfig" id options.projectConfig)

def TranspilerOptions.toJson (options : TranspilerOptions) : Json := .object options.toList

end WidgetPipeline
