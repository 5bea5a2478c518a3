import WidgetPipeline.Json.Decode
import WidgetPipeline.Pipeline

/-!
Reading what the pipeline consumes and produces from JSON documents. Lines and counts are integers
from zero on; a field that is not required may be left out, and where it has no value it may also be
null.
-/

namespace WidgetPipeline

open Json (Document)
open Json.Document (required withDefault nullable string? nat? bool? list? word?)

def Diagnostic.ofDocument? (document : Document) : Option Diagnostic := do
  let [message, level, line] ← document.slots? ["message", "level", "source_line"] | none
  return {
    message := ← required string? message
    level := ← required (word? Level.ofName?) level
    line := ← nullable nat? line }

def Directive.ofDocument? (document : Document) : Option Directive := do
  let [name, value, first, last] ← document.slots? ["name", "value", "begin_line", "end_line"]
    | none
  return {
    name := ← required string? name
    value := ← nullable string? value
    firstLine := ← required nat? first
    lastLine := ← required nat? last }

def Comment.ofDocument? (document : Document) : Option Comment := do
  let [content, first, last] ← document.slots? ["content", "begin", "end"] | none
  return {
    content := ← required string? content
    firstLine := ← required nat? first
    lastLine := ← required nat? last }

def StepOutput.ofDocument? (document : Document) : Option StepOutput := do
  let [code, logs] ← document.slots? ["code", "logs"] | none
  return {
    code := ← required string? code
    logs := ← required (list? Diagnostic.ofDocument?) logs }

def Extraction.ofDocument? (document : Document) : Option Extraction := do
  let [code, logs, directives] ← document.slots? ["code", "logs", "configs"] | none
  return {
    code := ← required string? code
    logs := ← required (list? Diagnostic.ofDocument?) logs
    directives := ← required (list? Directive.ofDocument?) directives }

def StageTrace.ofDocument? (document : Document) : Option StageTrace := do
  let [id, inHash, outHash, latency, diagnostics] ←
    document.slots? ["id", "in_hash", "out_hash", "latency_ms", "diagnostics"] | none
  return {
    id := ← required string? id
    inHash := ← required string? inHash
    outHash := ← required string? outHash
    latencyMs := ← required nat? latency
    diagnostics := ← required nat? diagnostics }

def PipelineOutput.ofDocument? (document : Document) : Option PipelineOutput := do
  let [code, logs, stages] ← document.slots? ["code", "logs", "stages"] | none
  return {
    code := ← required string? code
    logs := ← required (list? Diagnostic.ofDocument?) logs
    stages := ← withDefault [] (list? StageTrace.ofDocument?) stages }

def PipelineOptions.ofDocument? (document : Document) : Option PipelineOptions := do
  let [compile, format, config] ← document.slots? ["compileTypeScript", "format", "tsConfig"]
    | none
  return {
    compile := ← withDefault false bool? compile
    format := ← withDefault true bool? format
    projectConfig := ← nullable Document.nestedJson? config }

end WidgetPipeline
