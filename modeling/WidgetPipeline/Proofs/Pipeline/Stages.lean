import WidgetPipeline.Pipeline
import WidgetPipeline.Proofs.Pipeline.Converters
import WidgetPipeline.Proofs.Script.Steps

/-!
# The two halves of a run

A run first extracts the directives and transpiles what is left, if that is asked for
(`Runner.prepared`). Then a directive ends it with a note, or it goes on to the references and the
format. The first half has no use for the tables or the formatter. A run fails if and only if the
source text cannot be scanned (`Runner.run_eq_error_iff`).
-/

namespace WidgetPipeline

/-- A directive asks for an early end. -/
def Extraction.Skips (extraction : Extraction) : Prop :=
  ∃ directive ∈ extraction.directives, directive.name = "skip"

instance (extraction : Extraction) : Decidable extraction.Skips :=
  inferInstanceAs (Decidable (∃ directive ∈ extraction.directives, directive.name = "skip"))

/-- Extraction has nothing to report. -/
theorem logs_of_extractDirectives {scanner : CommentScanner} {code : String}
    {extraction : Extraction} (h : extractDirectives scanner code = .ok extraction) :
    extraction.logs = [] := by
  obtain ⟨comments, _, rfl⟩ := extractDirectives_eq_ok_iff.1 h
  rfl

namespace Runner

/-- What there is before a run ends early or goes on. -/
def prepared (runner : Runner) (options : PipelineOptions) (code : String)
    (extraction : Extraction) : PipelineOutput :=
  let extracted := ({ code } : PipelineOutput).andThen .extract
    { code := extraction.code, logs := extraction.logs }
  if options.compile then
    extracted.andThen .transpile (runner.transpileStep options extraction.code)
  else extracted

/-- What the first half of a run makes of the extracted code. -/
def transpiled (runner : Runner) (options : PipelineOptions) (code : String) : StepOutput :=
  if options.compile then runner.transpileStep options code else { code }

/-- The diagnostics of a run behind the resolution of references. -/
def formatLogs (runner : Runner) (options : PipelineOptions) (code : String) : List Diagnostic :=
  if options.format then
    match runner.formatter with
    | some formatter => (checkFormat formatter code).logs
    | none => [.info "No formatter configured, format check skipped"]
  else []

variable {runner : Runner} {tables : ReferenceTables} {options : PipelineOptions} {code : String}
  {extraction : Extraction} {output : PipelineOutput}

theorem prepared_code :
    (runner.prepared options code extraction).code =
      (runner.transpiled options extraction.code).code := by
  rw [prepared, transpiled]
  split <;> rfl

theorem prepared_logs :
    (runner.prepared options code extraction).logs =
      extraction.logs ++ (runner.transpiled options extraction.code).logs := by
  rw [prepared, transpiled]
  split <;> simp [PipelineOutput.andThen]

theorem skipDirective?_eq_none_iff :
    skipDirective? extraction.directives = none ↔ ¬ extraction.Skips := by
  simp [skipDirective?, Extraction.Skips]

theorem skips_iff :
    extraction.Skips ↔ ∃ directive, skipDirective? extraction.directives = some directive := by
  rw [← Option.ne_none_iff_exists', Ne, skipDirective?_eq_none_iff, Decidable.not_not]

theorem runExtracted_of_skip {directive : Directive}
    (h : skipDirective? extraction.directives = some directive) :
    runner.runExtracted tables options code extraction =
      (runner.prepared options code extraction).log (skipNote directive) := by
  simp only [runExtracted, h]
  rfl

theorem runExtracted_of_continue (h : skipDirective? extraction.directives = none) :
    runner.runExtracted tables options code extraction =
      runner.finish options ((runner.prepared options code extraction).andThen .resolve
        (resolveReferences tables (runner.prepared options code extraction).code)) := by
  simp only [runExtracted, h]
  rfl

theorem finish_logs :
    (runner.finish options output).logs = output.logs ++ runner.formatLogs options output.code := by
  rw [finish, formatLogs]
  by_cases hformat : options.format = true
  · simp only [if_pos hformat]
    cases runner.formatter <;> rfl
  · simp [hformat]

/-- A run gives a result if and only if there is an extraction, and goes on from there. -/
theorem run_eq_ok_iff :
    runner.run tables options code = .ok output ↔
      ∃ extraction, extractDirectives runner.scanner code = .ok extraction ∧
        runner.runExtracted tables options code extraction = output := by
  rw [run]
  cases extractDirectives runner.scanner code <;> simp

/-- A run fails if and only if the source text cannot be scanned, and says why. -/
theorem run_eq_error_iff {error : PipelineError} :
    runner.run tables options code = .error error ↔
      ∃ scanError, runner.scanner code = .error scanError ∧ error = .commentScan scanError := by
  simp only [← extractDirectives_eq_error_iff, run]
  cases extractDirectives runner.scanner code with
  | ok extraction => simp
  | error scanError => simp [eq_comm]

/-! ## A run in which both converters fail -/

/-- A runner whose converters refuse every text, the formatter without a message. -/
def refusingRunner : Runner where
  transpiler := some fun _ _ => .error ⟨"Unexpected token (1:15)"⟩
  formatter := some fun _ _ => .error ⟨""⟩

/-- A directive and a template literal with references, to an alias and under no known keyword. -/
def widgetSource : String :=
  "// @title(a)\nexport default \x60@\x7balias/a\x7d @\x7benv/b\x7d\x60;"

def widgetTables : ReferenceTables where
  aliases := ⟨[("a", "@\x7bb\x7d")], by decide⟩

def widgetExtraction : Extraction where
  code := "export default \x60@\x7balias/a\x7d @\x7benv/b\x7d\x60;"
  directives := [⟨"title", some "a", 1, 1⟩]

theorem extractDirectives_widgetSource :
    extractDirectives refusingRunner.scanner widgetSource = .ok widgetExtraction :=
  Script.eq_ok_of_toOption (by decide +kernel)

theorem run_widgetSource (options : PipelineOptions) :
    refusingRunner.run widgetTables options widgetSource =
      .ok (refusingRunner.runExtracted widgetTables options widgetSource widgetExtraction) :=
  run_eq_ok_iff.2 ⟨_, extractDirectives_widgetSource, rfl⟩

end Runner

end WidgetPipeline
