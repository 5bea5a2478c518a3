import WidgetPipeline.Cli.Run
import WidgetPipeline.Proofs.Json.Records
import WidgetPipeline.Report.Decode

/-!
# Reports that are read back

The JSON report of a run loses nothing: from the text of the report, compact or indented, the output
of the run is read back, with every message, level and line, every trace and the code
(`report_lossless`). The same holds for what the extraction of directives gives.

Lines and counts are words of 64 bits; that is what the `InWords` predicates say.
-/

namespace WidgetPipeline

open Json (Lossless)
open Json.Document (slots?_object required withDefault nullable string? nat? word? list?)

section Words

/-- Whether 64 bits hold the line of a diagnostic. -/
def Diagnostic.InWords (diagnostic : Diagnostic) : Prop :=
  ∀ line ∈ diagnostic.line, line < Text.wordLimit

/-- Whether 64 bits hold the lines of a directive. -/
structure Directive.InWords (directive : Directive) : Prop where
  firstLine : directive.firstLine < Text.wordLimit
  lastLine : directive.lastLine < Text.wordLimit

/-- Whether 64 bits hold the counters of a trace. -/
structure StageTrace.InWords (trace : StageTrace) : Prop where
  latencyMs : trace.latencyMs < Text.wordLimit
  diagnostics : trace.diagnostics < Text.wordLimit

/-- Whether 64 bits hold every number of an output. -/
structure PipelineOutput.InWords (output : PipelineOutput) : Prop where
  logs : ∀ log ∈ output.logs, log.InWords
  stages : ∀ trace ∈ output.stages, trace.InWords

/-- Whether 64 bits hold every number of an extraction. -/
structure Extraction.InWords (extraction : Extraction) : Prop where
  logs : ∀ log ∈ extraction.logs, log.InWords
  directives : ∀ directive ∈ extraction.directives, directive.InWords

end Words

section Fields

variable {α : Type} {decode : Json.Document → Option α} {s : String} {n : Nat}

@[simp] theorem nullable_none : nullable decode none = some none := rfl

@[simp] theorem string?_ofJson : string? (.ofJson (.string s)) = some s := rfl

@[simp] theorem nat?_ofJson : nat? (.ofJson (Json.ofNat n)) = some n := rfl

@[simp] theorem nullable_string?_ofJson :
    nullable string? (some (.ofJson (.string s))) = some (some s) := rfl

@[simp] theorem nullable_nat?_ofJson :
    nullable nat? (some (.ofJson (Json.ofNat n))) = some (some n) := rfl

@[simp] theorem word?_ofJson (level : Level) :
    word? Level.ofName? (.ofJson (.string level.name)) = some level :=
  level.ofName?_name

end Fields

theorem Diagnostic.lossless {diagnostic : Diagnostic} (h : diagnostic.InWords) :
    Lossless Diagnostic.toJson Diagnostic.ofDocument? diagnostic := by
  obtain ⟨message, level, line⟩ := diagnostic
  -- The field of the line is there only if the line is known.
  refine ⟨?_, ?_⟩
  · cases line with
    | none => simp [toJson, Json.optionalField]
    | some line => simpa [toJson, Json.optionalField] using Json.integral_ofNat (h line rfl)
  · cases line <;>
      simp [toJson, ofDocument?, Json.optionalField, slots?_object, required, List.lookup_cons]

theorem Directive.lossless {directive : Directive} (h : directive.InWords) :
    Lossless Directive.toJson Directive.ofDocument? directive := by
  have hlines := And.intro (Json.integral_ofNat h.firstLine) (Json.integral_ofNat h.lastLine)
  obtain ⟨name, value, firstLine, lastLine⟩ := directive
  refine ⟨?_, ?_⟩
  · cases value <;> simpa [toJson, Json.optionalField] using hlines
  · cases value <;>
      simp [toJson, ofDocument?, Json.optionalField, slots?_object, required, List.lookup_cons]

theorem StageTrace.lossless {trace : StageTrace} (h : trace.InWords) :
    Lossless StageTrace.toJson StageTrace.ofDocument? trace := by
  have hcounters :=
    And.intro (Json.integral_ofNat h.latencyMs) (Json.integral_ofNat h.diagnostics)
  refine ⟨by simpa [toJson] using hcounters, ?_⟩
  simp [toJson, ofDocument?, slots?_object, required, List.lookup_cons]

theorem lossless_logs {logs : List Diagnostic} (h : ∀ log ∈ logs, log.InWords) :
    Lossless Json.ofLogs (list? Diagnostic.ofDocument?) logs :=
  .list fun log hlog => Diagnostic.lossless (h log hlog)

theorem PipelineOutput.lossless {output : PipelineOutput} (h : output.InWords) :
    Lossless PipelineOutput.toJson PipelineOutput.ofDocument? output := by
  have hlogs := lossless_logs h.logs
  have hstages := Lossless.list fun trace htrace => StageTrace.lossless (h.stages trace htrace)
  refine ⟨?_, ?_⟩
  · rw [toJson, Json.integral_object_iff]
    simp only [List.forall_mem_cons]
    exact ⟨.string, hlogs.integral, hstages.integral, by simp⟩
  · simp [toJson, ofDocument?, slots?_object, required, withDefault, List.lookup_cons,
      hlogs.decode_ofJson, hstages.decode_ofJson]

theorem Extraction.lossless {extraction : Extraction} (h : extraction.InWords) :
    Lossless Extraction.toJson Extraction.ofDocument? extraction := by
  have hlogs := lossless_logs h.logs
  have hdirectives := Lossless.list fun directive hdirective =>
    Directive.lossless (h.directives directive hdirective)
  refine ⟨?_, ?_⟩
  · rw [toJson, Json.integral_object_iff]
    simp only [List.forall_mem_cons]
    exact ⟨.string, hlogs.integral, hdirectives.integral, by simp⟩
  · simp [toJson, ofDocument?, slots?_object, required, List.lookup_cons,
      hlogs.decode_ofJson, hdirectives.decode_ofJson]

/-- Nothing is lost in a report. The compact and the indented text of an output read back as the
output, the document that the command line prints as well, and the texts of an extraction read back
as the extraction. -/
theorem report_lossless {output : PipelineOutput} {extraction : Extraction}
    (houtput : output.InWords) (hextraction : extraction.InWords) :
    (Json.Document.read? output.toJson.compact).bind PipelineOutput.ofDocument? = some output ∧
    (Json.Document.read? output.toJson.indented).bind PipelineOutput.ofDocument? = some output ∧
    (∀ arguments : Cli.Arguments, arguments.json = true →
      (Json.Document.read? (arguments.report output).output).bind PipelineOutput.ofDocument? =
        some output) ∧
    (Json.Document.read? extraction.toJson.compact).bind Extraction.ofDocument? =
      some extraction ∧
    (Json.Document.read? extraction.toJson.indented).bind Extraction.ofDocument? =
      some extraction := by
  have hreport := PipelineOutput.lossless houtput
  have hdirectives := Extraction.lossless hextraction
  refine ⟨hreport.compact, by simpa using hreport.indented .nil, ?_, hdirectives.compact,
    by simpa using hdirectives.indented .nil⟩
  intro arguments hjson
  have hbreak : String.ofList (Json.newLine 0) = "\n" := rfl
  have hprinted := hreport.indented (.newLine 0)
  rw [hbreak] at hprinted
  simpa [Cli.Arguments.report, hjson] using hprinted

/-- A report with a quote, a backslash, control characters and a letter beyond ASCII, a line that is
known and one that is not, and the largest counter. -/
def awkwardReport : PipelineOutput where
  code := "const path = \"C:\\Größe\";\n\tlog('\x01\x7f');"
  logs := [.info "nothing \u2028 here", { message := "", level := .error, line := some 3 }]
  stages := [⟨"format.check", "", "00ff", Text.wordLimit - 1, 1⟩]

/-- Directives with no value, with an empty one and with one that has to be escaped. -/
def awkwardExtraction : Extraction where
  code := ""
  directives := [⟨"skip", none, 1, 1⟩, ⟨"note", some "", 2, 2⟩, ⟨"tags", some "\"a\"\r\n/b", 3, 4⟩]

/-- A command line that asks for the report as a document. -/
def printingJson : Cli.Arguments := { input := "page.ts", json := true }

theorem report_lossless_awkward :
    awkwardReport.InWords ∧ awkwardExtraction.InWords ∧
    (Json.Document.read? awkwardReport.toJson.compact).bind PipelineOutput.ofDocument? =
      some awkwardReport ∧
    (Json.Document.read? awkwardReport.toJson.indented).bind PipelineOutput.ofDocument? =
      some awkwardReport ∧
    (Json.Document.read? (printingJson.report awkwardReport).output).bind
      PipelineOutput.ofDocument? = some awkwardReport ∧
    (Json.Document.read? awkwardExtraction.toJson.compact).bind Extraction.ofDocument? =
      some awkwardExtraction := by
  have houtput : awkwardReport.InWords := by
    refine ⟨by simp [awkwardReport, Diagnostic.InWords, Diagnostic.info, Text.wordLimit], ?_⟩
    simpa [awkwardReport] using StageTrace.InWords.mk (by decide) (by decide)
  have hextraction : awkwardExtraction.InWords := by
    refine ⟨by simp [awkwardExtraction], ?_⟩
    intro directive hdirective
    simp only [awkwardExtraction, List.mem_cons, List.not_mem_nil, or_false] at hdirective
    rcases hdirective with rfl | rfl | rfl <;> exact ⟨by decide, by decide⟩
  have hread := report_lossless houtput hextraction
  exact ⟨houtput, hextraction, hread.1, hread.2.1, hread.2.2.1 printingJson rfl, hread.2.2.2.1⟩

end WidgetPipeline
