import WidgetPipeline.Proofs.Pipeline.Stages
import WidgetPipeline.Proofs.Reference.Resolution

/-!
# How a run can fail

A run gives no result only where the source text cannot be scanned. Where it gives one, the failures
in the log are those of the two converters on the texts that they were given: one for each that was
asked and refused, or that is missing though it is needed (`run_failures`). Extraction and the
resolution of references have none.
-/

namespace WidgetPipeline

/-- The failures among diagnostics. -/
def failures (logs : List Diagnostic) : List Diagnostic :=
  logs.filter fun diagnostic => diagnostic.level = .error

section

variable {logs more : List Diagnostic} {message : String}

@[simp] theorem failures_append : failures (logs ++ more) = failures logs ++ failures more :=
  List.filter_append _ _

@[simp] theorem failures_error :
    failures (.error message :: logs) = .error message :: failures logs := rfl

theorem failures_eq_nil_iff :
    failures logs = [] ↔ ∀ diagnostic ∈ logs, diagnostic.level ≠ .error := by
  simp [failures]

theorem anyError_iff : anyError logs = true ↔ failures logs ≠ [] := by
  simp [anyError, failures]

end

theorem failures_map_error (messages : List String) :
    failures (messages.map .error) = messages.map .error := by
  induction messages with
  | nil => rfl
  | cons message messages ih => rw [List.map_cons, failures_error, ih]

theorem failures_transpile (transpiler : Transpiler) (projectConfig : Option Json) (code : String) :
    failures (transpile transpiler projectConfig code).logs =
      (failureReport? "Something went wrong while transpiling TypeScript"
        (transpiler code (transpilerOptions projectConfig))).toList.map .error := by
  have hwarnings : ∀ has : Bool,
      failures (if has then [] else [.warn "No default export found"]) = [] := by decide
  simp only [transpile_eq, failures_append, failures_map_error, hwarnings, List.append_nil]

theorem failures_checkFormat (formatter : Formatter) (code : String) :
    failures (checkFormat formatter code).logs =
      (failureReport? "Something went wrong while formatting"
        (formatter code formatParser)).toList.map .error := by
  rw [logs_checkFormat, failures_map_error]

/-- What resolution reports are warnings. -/
theorem failures_resolveReferences (tables : ReferenceTables) (code : String) :
    failures (resolveReferences tables code).logs = [] := by
  rw [failures_eq_nil_iff]
  intro diagnostic hmem
  obtain ⟨message, rfl⟩ := Reference.eq_warn_of_mem_resolveReferences hmem
  simp [Diagnostic.warn]

namespace Runner

/-- What is reported of the transpile stage if it fails on a text. -/
def transpileFailure? (runner : Runner) (options : PipelineOptions) (code : String) :
    Option String :=
  match options.compile, runner.transpiler with
  | false, _ => none
  | true, none => some "No TypeScript transpiler configured"
  | true, some transpiler =>
    failureReport? "Something went wrong while transpiling TypeScript"
      (transpiler code (transpilerOptions options.projectConfig))

/-- What is reported of the format check if it fails on a text. -/
def formatFailure? (runner : Runner) (options : PipelineOptions) (code : String) : Option String :=
  match options.format, runner.formatter with
  | true, some formatter =>
    failureReport? "Something went wrong while formatting" (formatter code formatParser)
  | _, _ => none

variable {runner : Runner} {tables : ReferenceTables} {options : PipelineOptions} {code : String}
  {extraction : Extraction} {output : PipelineOutput}

theorem transpileFailure?_isSome_iff :
    (runner.transpileFailure? options code).isSome ↔
      options.compile = true ∧ (runner.transpiler = none ∨
        ∃ transpiler error, runner.transpiler = some transpiler ∧
          transpiler code (transpilerOptions options.projectConfig) = .error error) := by
  unfold transpileFailure?
  cases options.compile <;> cases runner.transpiler <;> simp [failureReport?_isSome_iff]

theorem formatFailure?_isSome_iff :
    (runner.formatFailure? options code).isSome ↔
      options.format = true ∧ ∃ formatter error, runner.formatter = some formatter ∧
        formatter code formatParser = .error error := by
  unfold formatFailure?
  cases options.format <;> cases runner.formatter <;> simp [failureReport?_isSome_iff]

theorem failures_transpiled :
    failures (runner.transpiled options code).logs =
      (runner.transpileFailure? options code).toList.map .error := by
  unfold transpiled transpileFailure? transpileStep
  cases options.compile with
  | false => rfl
  | true =>
    cases runner.transpiler with
    | none => rfl
    | some transpiler => exact failures_transpile transpiler _ code

theorem failures_formatLogs :
    failures (runner.formatLogs options code) =
      (runner.formatFailure? options code).toList.map .error := by
  unfold formatLogs formatFailure?
  cases options.format with
  | false => rfl
  | true =>
    cases runner.formatter with
    | none => rfl
    | some formatter => exact failures_checkFormat formatter code

/-- The failures in the log of a run: of the transpile stage on the extracted code, and of the
format check on the resolved code, unless the run ended before. -/
theorem failures_runExtracted (tables : ReferenceTables) (options : PipelineOptions)
    (extracts : extractDirectives runner.scanner code = .ok extraction) :
    failures (runner.runExtracted tables options code extraction).logs =
      ((runner.transpileFailure? options extraction.code).toList ++
        if extraction.Skips then []
        else (runner.formatFailure? options (resolveReferences tables
          (runner.transpiled options extraction.code).code).code).toList).map .error := by
  have hextracted := logs_of_extractDirectives extracts
  cases hskip : skipDirective? extraction.directives with
  | some directive =>
    have hnote : failures [skipNote directive] = [] := rfl
    rw [runExtracted_of_skip hskip, if_pos (skips_iff.2 ⟨_, hskip⟩)]
    simp [PipelineOutput.log, prepared_logs, hextracted, failures_transpiled, hnote]
  | none =>
    rw [runExtracted_of_continue hskip, if_neg (skipDirective?_eq_none_iff.1 hskip), finish_logs]
    simp [PipelineOutput.andThen, prepared_code, prepared_logs, hextracted, failures_transpiled,
      failures_resolveReferences, failures_formatLogs]

/-- A run fails if and only if the source text cannot be scanned, with the error of the scan. The
result of a run has errors if and only if the transpile stage was asked for and had no transpiler or
one that refused the extracted code, or the run went on and its formatter refused the resolved code.
Each of these is one error in the log, in this order, with the message of the converter if it has
one. No other stage reports an error. -/
theorem run_failures (runner : Runner) (tables : ReferenceTables) (options : PipelineOptions)
    (code : String) :
    (∀ error, runner.run tables options code = .error error ↔
      ∃ scanError, runner.scanner code = .error scanError ∧ error = .commentScan scanError) ∧
    ∀ output, runner.run tables options code = .ok output →
      ∃ extraction resolved, extractDirectives runner.scanner code = .ok extraction ∧
        resolveReferences tables (runner.transpiled options extraction.code).code = resolved ∧
        (output.hasErrors = true ↔
          options.compile = true ∧ (runner.transpiler = none ∨
            ∃ transpiler error, runner.transpiler = some transpiler ∧
              transpiler extraction.code (transpilerOptions options.projectConfig) =
                .error error) ∨
          ¬ extraction.Skips ∧ options.format = true ∧
            ∃ formatter error, runner.formatter = some formatter ∧
              formatter resolved.code formatParser = .error error) ∧
        (output.logs.filter fun diagnostic => diagnostic.level = .error) =
          ((runner.transpileFailure? options extraction.code).toList ++
            if extraction.Skips then []
            else (runner.formatFailure? options resolved.code).toList).map .error ∧
        ∀ diagnostic ∈ extraction.logs ++ resolved.logs, diagnostic.level ≠ .error := by
  refine ⟨fun error => run_eq_error_iff, ?_⟩
  intro output h
  obtain ⟨extraction, extracts, rfl⟩ := run_eq_ok_iff.1 h
  have hfailures := failures_runExtracted tables options extracts
  refine ⟨extraction, _, extracts, rfl, ?_, hfailures, ?_⟩
  · rw [PipelineOutput.hasErrors, anyError_iff, hfailures, ← transpileFailure?_isSome_iff,
      ← formatFailure?_isSome_iff]
    cases runner.transpileFailure? options extraction.code <;>
      by_cases hskips : extraction.Skips <;> simp [hskips, Option.isSome_iff_ne_none]
  · rw [← failures_eq_nil_iff, failures_append, logs_of_extractDirectives extracts,
      failures_resolveReferences]
    rfl

theorem run_failures_widgetSource :
    ∃ output, refusingRunner.run widgetTables { compile := true } widgetSource = .ok output ∧
      output.hasErrors = true ∧
      (output.logs.filter fun diagnostic => diagnostic.level = .error) =
        [.error "Unexpected token (1:15)", .error "Something went wrong while formatting"] := by
  have hrun := run_widgetSource { compile := true }
  obtain ⟨extraction, resolved, extracts, -, herrors, hlogs, -⟩ :=
    (run_failures refusingRunner widgetTables { compile := true } widgetSource).2 _ hrun
  obtain rfl : widgetExtraction = extraction :=
    Except.ok.inj (extractDirectives_widgetSource.symm.trans extracts)
  exact ⟨_, hrun, herrors.2 (.inl ⟨rfl, .inr ⟨_, _, rfl, rfl⟩⟩), hlogs⟩

end Runner

end WidgetPipeline
